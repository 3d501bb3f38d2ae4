/-
The UDP classifier.

`udp_get_message_type` looks at the first bytes of a UDP payload and returns the tag of the
first of seven mask-and-value tests that passes, in the order DHCP client, DTLS client hello,
DTLS server hello, DNS server, DNS client, WireGuard, QUIC; `unknown` when none passes or when
the payload is shorter than the eight bytes of the DHCP mask.

The tests exclude one another.  For every pair some byte is constrained by both masks, and
the two values disagree on the bits both masks keep; since `(x & m₁) & m₂ = (x & m₂) & m₁`,
no byte passes both.  So at most one test passes on any buffer, the first test that passes is
the only one, and the classifier returns the same tag whatever order the tests are made in.

The length guard is the only look at `len`, and it asks for eight bytes, while the two DTLS
tests compare sixteen.  On a payload of 8 to 15 bytes those tests read memory past the
datagram, and the tag can change with bytes that are not part of it.  From sixteen bytes on,
the classifier is the first match over rules that each need their full width inside the
datagram.

The comparisons read a bare pointer.  `udpData` is the memory at it, and a read past the end
of that memory is a fault: on 8 to 15 bytes of memory the code faults as soon as it reaches a
DTLS test (`udpGetMessageType_of_short`), and on 16 bytes or more it never faults and is the
first match over that memory (`udpGetMessageType_of_length`).
-/
import Mercury.Matcher

namespace Mercury.Udp

/-- `enum udp_msg_type`. -/
inductive UdpMsgType where
  | unknown
  | dhcp
  | dtlsClientHello
  | dtlsServerHello
  | dns
  | wireguard
  | quic
  deriving DecidableEq, Repr

/-! ### Masks and values -/

def dtlsClientHelloMask : List UInt8 :=
  [0xff, 0xff, 0xf0, 0x00, 0x00, 0x00, 0x00, 0x00, 0x00, 0x00, 0x00, 0x00, 0x00, 0xff, 0x00, 0x00]
def dtlsClientHelloValue : List UInt8 :=
  [0x16, 0xfe, 0xf0, 0x00, 0x00, 0x00, 0x00, 0x00, 0x00, 0x00, 0x00, 0x00, 0x00, 0x01, 0x00, 0x00]
def dtlsServerHelloMask : List UInt8 :=
  [0xff, 0xff, 0xf0, 0x00, 0x00, 0x00, 0x00, 0x00, 0x00, 0x00, 0x00, 0x00, 0x00, 0xff, 0x00, 0x00]
def dtlsServerHelloValue : List UInt8 :=
  [0x16, 0xfe, 0xf0, 0x00, 0x00, 0x00, 0x00, 0x00, 0x00, 0x00, 0x00, 0x00, 0x00, 0x02, 0x00, 0x00]
def dhcpClientValue : List UInt8 := [0x01, 0x01, 0x06, 0x00, 0x00, 0x00, 0x00, 0x00]
def dhcpClientMask : List UInt8 := [0xff, 0xff, 0xff, 0xff, 0x00, 0x00, 0x00, 0x00]
def dnsServerMask : List UInt8 := [0x00, 0x00, 0xff, 0xff, 0xff, 0x00, 0xff, 0x00]
def dnsServerValue : List UInt8 := [0x00, 0x00, 0x81, 0x80, 0x00, 0x00, 0x00, 0x00]
def dnsClientMask : List UInt8 := [0x00, 0x00, 0xff, 0xff, 0xff, 0x00, 0xff, 0x00]
def dnsClientValue : List UInt8 := [0x00, 0x00, 0x01, 0x00, 0x00, 0x00, 0x00, 0x00]
def wireguardMask : List UInt8 := [0xff, 0xff, 0xff, 0xff, 0x00, 0x00, 0x00, 0x00]
def wireguardValue : List UInt8 := [0x01, 0x00, 0x00, 0x00, 0x00, 0x00, 0x00, 0x00]
def quicMask : List UInt8 := [0xf0, 0x00, 0xff, 0xff, 0x00, 0x00, 0x00, 0x00]
def quicValue : List UInt8 := [0xc0, 0x00, 0x00, 0x00, 0x00, 0x00, 0x00, 0x00]

/-- `udp_get_message_type(udp_data, len)`, `udpData` being the memory at `udp_data`: the tag, or
the fault of a comparison that reads past that memory. -/
def udpGetMessageType (udpData : List UInt8) (len : Nat) : Except Fault UdpMsgType :=
  if len < dhcpClientMask.length then pure .unknown else do
  if (← u32CompareMaskedDataToValue udpData dhcpClientMask dhcpClientValue) then pure .dhcp
  else do
  if (← u64CompareMaskedDataToValue udpData dtlsClientHelloMask dtlsClientHelloValue) then
    pure .dtlsClientHello
  else do
  if (← u64CompareMaskedDataToValue udpData dtlsServerHelloMask dtlsServerHelloValue) then
    pure .dtlsServerHello
  else do
  if (← u32CompareMaskedDataToValue udpData dnsServerMask dnsServerValue) then pure .dns
  else do
  if (← u32CompareMaskedDataToValue udpData dnsClientMask dnsClientValue) then pure .dns
  else do
  if (← u32CompareMaskedDataToValue udpData wireguardMask wireguardValue) then pure .wireguard
  else do
  if (← u32CompareMaskedDataToValue udpData quicMask quicValue) then pure .quic
  else pure .unknown

/-! ### The tests as a table -/

/-- One test of the classifier: the width it compares, its mask and value, and its tag. -/
structure UdpTest where
  width : Nat
  mask : List UInt8
  value : List UInt8
  tag : UdpMsgType
  deriving DecidableEq, Repr

/-- Whether the test passes on the bytes at `data`. -/
def UdpTest.test (t : UdpTest) (data : List UInt8) : Bool :=
  compareMaskedDataToValue t.width data t.mask t.value

/-- The seven tests in the order `udp_get_message_type` makes them. -/
def udpTests : List UdpTest :=
  [⟨8, dhcpClientMask, dhcpClientValue, .dhcp⟩,
   ⟨16, dtlsClientHelloMask, dtlsClientHelloValue, .dtlsClientHello⟩,
   ⟨16, dtlsServerHelloMask, dtlsServerHelloValue, .dtlsServerHello⟩,
   ⟨8, dnsServerMask, dnsServerValue, .dns⟩,
   ⟨8, dnsClientMask, dnsClientValue, .dns⟩,
   ⟨8, wireguardMask, wireguardValue, .wireguard⟩,
   ⟨8, quicMask, quicValue, .quic⟩]

/-- Every rule is 8 bytes wide, or 16 and one of the two DTLS rules. -/
theorem udpTests_width :
    ∀ t ∈ udpTests, t.width = 8 ∨
      t.width = 16 ∧ (t.tag = .dtlsClientHello ∨ t.tag = .dtlsServerHello) := by
  decide

/-- The tag of the first test of `tests` that passes on the bytes `data`. -/
def firstMatch (tests : List UdpTest) (data : List UInt8) : UdpMsgType :=
  match tests.find? (·.test data) with
  | some t => t.tag
  | none => .unknown

theorem firstMatch_cons (t : UdpTest) (ts : List UdpTest) (data : List UInt8) :
    firstMatch (t :: ts) data = if t.test data then t.tag else firstMatch ts data := by
  unfold firstMatch
  rw [List.find?_cons]
  cases t.test data <;> rfl

/-- The tests `tests` made in turn on the memory at `udpData`, each reading its width of it. -/
def firstMatchAt : List UdpTest → List UInt8 → Except Fault UdpMsgType
  | [], _ => pure .unknown
  | t :: ts, udpData => do
    if (← compareMaskedAt t.width udpData t.mask t.value) then pure t.tag
    else firstMatchAt ts udpData

/-- The classifier with its tests made in the order `tests`. -/
def udpGetMessageTypeIn (tests : List UdpTest) (udpData : List UInt8) (len : Nat) :
    Except Fault UdpMsgType :=
  if len < dhcpClientMask.length then pure .unknown else firstMatchAt tests udpData

theorem udpGetMessageType_eq_in (udpData : List UInt8) (len : Nat) :
    udpGetMessageType udpData len = udpGetMessageTypeIn udpTests udpData len :=
  rfl

/-- When the memory holds every test's width, no read faults and the tests pick the first
match. -/
theorem firstMatchAt_of_le {udpData : List UInt8} :
    ∀ {tests : List UdpTest}, (∀ t ∈ tests, t.width ≤ udpData.length) →
      firstMatchAt tests udpData = .ok (firstMatch tests udpData)
  | [], _ => rfl
  | t :: ts, h => by
    have ih : firstMatchAt ts udpData = .ok (firstMatch ts udpData) :=
      firstMatchAt_of_le fun b hb => h b (List.mem_cons_of_mem t hb)
    rw [firstMatchAt, compareMaskedAt_of_le (h t (List.mem_cons_self t ts)), firstMatch_cons]
    show (if t.test udpData then pure t.tag else firstMatchAt ts udpData) = _
    cases t.test udpData
    · exact ih
    · rfl

/-- On 16 bytes of memory the classifier never faults: from eight bytes of datagram on it is
the first match over that memory. -/
theorem udpGetMessageType_of_length {buf : List UInt8} {len : Nat} (h16 : 16 ≤ buf.length)
    (h8 : 8 ≤ len) : udpGetMessageType buf len = .ok (firstMatch udpTests buf) := by
  rw [udpGetMessageType_eq_in, udpGetMessageTypeIn, if_neg (by simpa [dhcpClientMask] using h8)]
  exact firstMatchAt_of_le fun t ht => by rcases udpTests_width t ht with h | ⟨h, -⟩ <;> omega

/-! ### The tests exclude one another -/

/-- Two tests conflict when, at some byte both compare, no byte value passes both. -/
def UdpTest.conflicts (t₁ t₂ : UdpTest) : Bool :=
  (List.range (min t₁.width t₂.width)).any fun i =>
    (t₁.value.getD i 0 &&& t₂.mask.getD i 0) != (t₂.value.getD i 0 &&& t₁.mask.getD i 0)

theorem UdpTest.not_test_and_test {t₁ t₂ : UdpTest} (h : t₁.conflicts t₂ = true)
    (data : List UInt8) : ¬(t₁.test data = true ∧ t₂.test data = true) := by
  rintro ⟨h₁, h₂⟩
  simp only [UdpTest.conflicts, List.any_eq_true, List.mem_range, bne_iff_ne, ne_eq] at h
  obtain ⟨i, hi, hne⟩ := h
  rw [UdpTest.test, compareMaskedDataToValue_iff] at h₁ h₂
  apply hne
  rw [← h₁ i (by omega), ← h₂ i (by omega), land_right_comm]

theorem udpTests_conflict :
    ∀ t₁ ∈ udpTests, ∀ t₂ ∈ udpTests, t₁ ≠ t₂ → t₁.conflicts t₂ = true := by
  decide

/-- At most one of the seven tests passes on any bytes. -/
theorem udpTests_unique (data : List UInt8) :
    ∀ t₁ ∈ udpTests, ∀ t₂ ∈ udpTests, t₁.test data = true → t₂.test data = true → t₁ = t₂ :=
  fun t₁ h₁ t₂ h₂ p₁ p₂ => Classical.byContradiction fun hne =>
    UdpTest.not_test_and_test (udpTests_conflict t₁ h₁ t₂ h₂ hne) data ⟨p₁, p₂⟩

/-- The classifier that looks at the datagram `dgram` alone: the first rule, in the same
order, whose full width lies inside the datagram and whose test passes on it. -/
def referenceClassify (dgram : List UInt8) : UdpMsgType :=
  match udpTests.find? (fun t => decide (t.width ≤ dgram.length) && t.test dgram) with
  | some t => t.tag
  | none => .unknown

/-- A test no wider than the datagram reads only the datagram. -/
theorem test_take {t : UdpTest} {len : Nat} (h : t.width ≤ len) (buf : List UInt8) :
    t.test (buf.take len) = t.test buf := by
  rw [Bool.eq_iff_iff, UdpTest.test, UdpTest.test, compareMaskedDataToValue_iff,
    compareMaskedDataToValue_iff]
  refine forall_congr' fun i => imp_congr_right fun hi => ?_
  simp only [List.getD_eq_getElem?_getD, List.getElem?_take_of_lt (show i < len by omega)]

theorem find?_congr {α : Type} {p q : α → Bool} :
    ∀ {l : List α}, (∀ a ∈ l, p a = q a) → l.find? p = l.find? q
  | [], _ => rfl
  | a :: l, h => by
    rw [List.find?_cons, List.find?_cons, h a (List.mem_cons_self a l),
      find?_congr fun b hb => h b (List.mem_cons_of_mem a hb)]

theorem find?_eq_some_of_unique {α : Type} {p : α → Bool} {l : List α} {a : α} (ha : a ∈ l)
    (hpa : p a = true) (hu : ∀ b ∈ l, p b = true → b = a) : l.find? p = some a := by
  obtain ⟨b, hb⟩ := Option.isSome_iff_exists.mp (List.find?_isSome.mpr ⟨a, ha, hpa⟩)
  rw [hb, hu b (List.mem_of_find?_eq_some hb) (List.find?_some hb)]

/-- Below eight bytes the code answers `unknown` without a read, and no rule fits the
datagram. -/
theorem udpGetMessageType_of_lt {buf : List UInt8} {len : Nat} (hbuf : len ≤ buf.length)
    (h8 : len < 8) : udpGetMessageType buf len = .ok (referenceClassify (buf.take len)) := by
  rw [udpGetMessageType_eq_in, udpGetMessageTypeIn, if_pos (by simpa [dhcpClientMask] using h8),
    referenceClassify, find?_congr (q := fun _ => false)]
  · rfl
  · intro t ht
    have : ¬t.width ≤ (buf.take len).length := by
      rw [List.length_take_of_le hbuf]
      rcases udpTests_width t ht with h | ⟨h, -⟩ <;> omega
    simp only [this, decide_False, Bool.false_and]

/-- From eight bytes on, the first match over the memory is the reference on the datagram,
unless the datagram is shorter than 16 bytes and the match is a DTLS rule. -/
theorem firstMatch_eq_reference_unless_dtls {buf : List UInt8} {len : Nat}
    (hbuf : len ≤ buf.length) (h8 : 8 ≤ len) :
    firstMatch udpTests buf = referenceClassify (buf.take len) ∨
      len < 16 ∧ (firstMatch udpTests buf = .dtlsClientHello ∨
        firstMatch udpTests buf = .dtlsServerHello) := by
  have hlen : (buf.take len).length = len := List.length_take_of_le hbuf
  rw [referenceClassify, firstMatch]
  simp only [hlen]
  by_cases hd : ∃ t ∈ udpTests, t.width = 16 ∧ t.test buf = true
  · obtain ⟨t, ht, hw, hpt⟩ := hd
    rw [find?_eq_some_of_unique ht hpt fun b hb hpb => udpTests_unique buf b hb t ht hpb hpt]
    by_cases h16 : len < 16
    · exact .inr ⟨h16, ((udpTests_width t ht).resolve_left (by omega)).2⟩
    · left
      rw [find?_eq_some_of_unique ht (by
        simp only [Bool.and_eq_true, decide_eq_true_eq]
        exact ⟨by omega, by rw [test_take (by omega)]; exact hpt⟩) fun b hb hpb => by
        simp only [Bool.and_eq_true, decide_eq_true_eq] at hpb
        exact udpTests_unique buf b hb t ht (by rw [← test_take hpb.1 buf]; exact hpb.2) hpt]
  · left
    push_neg at hd
    rw [find?_congr]
    intro t ht
    by_cases hw : t.width ≤ len
    · simp [hw, test_take]
    · have h16 : t.width = 16 := by rcases udpTests_width t ht with h | ⟨h, -⟩ <;> omega
      simp [hw, hd t ht h16]

/-- On 8 to 15 bytes of memory the code reads the DHCP rule, and past the memory when that
rule fails. -/
theorem udpGetMessageType_of_short {buf : List UInt8} {len : Nat} (h8 : 8 ≤ len)
    (hbuf : len ≤ buf.length) (h16 : buf.length < 16) :
    udpGetMessageType buf len =
      if compareMaskedDataToValue 8 buf dhcpClientMask dhcpClientValue then .ok .dhcp
      else .error (.deref (some buf.length)) := by
  rw [udpGetMessageType, if_neg (by simpa [dhcpClientMask] using h8),
    u32CompareMaskedDataToValue, compareMaskedAt_of_le (by omega), u64CompareMaskedDataToValue,
    compareMaskedAt_of_lt h16]
  cases compareMaskedDataToValue 8 buf dhcpClientMask dhcpClientValue <;> rfl

/-- A DHCP datagram of eight bytes or more is classified as the reference classifies it. -/
theorem referenceClassify_of_dhcp {buf : List UInt8} {len : Nat} (h8 : 8 ≤ len)
    (hbuf : len ≤ buf.length)
    (h : compareMaskedDataToValue 8 buf dhcpClientMask dhcpClientValue = true) :
    referenceClassify (buf.take len) = .dhcp := by
  have hd : (udpTests.head (by decide)).test (buf.take len) = true := by
    rw [test_take (by exact h8)]
    exact h
  simp only [referenceClassify, udpTests, List.find?_cons, List.length_take_of_le hbuf,
    show (8 ≤ len) = True from eq_true h8, decide_True, Bool.true_and]
  simp only [udpTests, List.head_cons] at hd
  rw [hd]

/-- **What the tag depends on.**  Below eight bytes of datagram and from sixteen on, the code
answers as the reference classifier on the datagram alone.  From eight to fifteen bytes it can
answer otherwise only with a DTLS tag, read from memory past the datagram, or by faulting on a
read past the memory when that holds fewer than sixteen bytes. -/
theorem udpGetMessageType_eq_reference_unless_dtls (buf : List UInt8) (len : Nat)
    (hbuf : len ≤ buf.length) :
    udpGetMessageType buf len = .ok (referenceClassify (buf.take len)) ∨
      8 ≤ len ∧ len < 16 ∧
        (udpGetMessageType buf len = .ok .dtlsClientHello ∨
          udpGetMessageType buf len = .ok .dtlsServerHello ∨
          buf.length < 16 ∧ udpGetMessageType buf len = .error (.deref (some buf.length))) := by
  by_cases h8 : len < 8
  · exact .inl (udpGetMessageType_of_lt hbuf h8)
  by_cases h16 : 16 ≤ buf.length
  · rw [udpGetMessageType_of_length h16 (by omega)]
    rcases firstMatch_eq_reference_unless_dtls hbuf (by omega) with h | ⟨hl, h | h⟩
    · exact .inl (congrArg _ h)
    · exact .inr ⟨by omega, hl, .inl (congrArg _ h)⟩
    · exact .inr ⟨by omega, hl, .inr (.inl (congrArg _ h))⟩
  · rw [udpGetMessageType_of_short (by omega) hbuf (by omega)]
    cases hd : compareMaskedDataToValue 8 buf dhcpClientMask dhcpClientValue
    · exact .inr ⟨by omega, by omega, .inr (.inr ⟨by omega, rfl⟩)⟩
    · exact .inl (congrArg _ (referenceClassify_of_dhcp (by omega) hbuf hd).symm)

/-- Eight zero bytes: no DHCP request, and the DTLS test reads past them. -/
theorem udpGetMessageType_eq_reference_zeros :
    8 ≤ (List.replicate 8 (0 : UInt8)).length ∧
    (udpGetMessageType (List.replicate 8 0) 8 =
        .ok (referenceClassify ((List.replicate 8 0).take 8)) ∨
      8 ≤ 8 ∧ 8 < 16 ∧
        (udpGetMessageType (List.replicate 8 0) 8 = .ok .dtlsClientHello ∨
          udpGetMessageType (List.replicate 8 0) 8 = .ok .dtlsServerHello ∨
          (List.replicate 8 (0 : UInt8)).length < 16 ∧
            udpGetMessageType (List.replicate 8 0) 8 =
              .error (.deref (some (List.replicate 8 (0 : UInt8)).length)))) :=
  ⟨by decide, udpGetMessageType_eq_reference_unless_dtls _ _ (by decide)⟩

/-- A datagram of eight bytes that looks like the start of a DTLS client hello is tagged by
byte 13, which lies past its end; and when the memory ends with the datagram the read past it
faults. -/
theorem udp_get_message_type_reads_past_datagram :
    udpGetMessageType [0x16, 0xfe, 0xf0, 0, 0, 0, 0, 0, 0, 0, 0, 0, 0, 0x01, 0, 0] 8
      = .ok .dtlsClientHello ∧
    udpGetMessageType [0x16, 0xfe, 0xf0, 0, 0, 0, 0, 0, 0, 0, 0, 0, 0, 0x00, 0, 0] 8
      = .ok .unknown ∧
    referenceClassify [0x16, 0xfe, 0xf0, 0, 0, 0, 0, 0] = .unknown ∧
    udpGetMessageType [0x16, 0xfe, 0xf0, 0, 0, 0, 0, 0] 8 = .error (.deref (some 8)) :=
  ⟨rfl, rfl, by decide, rfl⟩

/-! ### The matcher objects

`udp.cc` also declares one `mask_and_value` object per rule, with the bytes of the arrays the
classifier reads.  The first member of such an object is the mask and the second the value, and
the DHCP object gives its two arrays the other way round: its mask is the DHCP value and its
value the DHCP mask.  A byte masked with `0x01` keeps at most bit 0, so it never equals
`0xff`, and that object matches nothing.  The DNS client object is declared 16 bytes wide with
8 given; the other 8 are zero, so it asks for 16 bytes and then makes the 8-byte test. -/

def dltsClientHelloMatcher : MaskAndValue 16 where
  mask := [0xff, 0xff, 0xf0, 0x00, 0x00, 0x00, 0x00, 0x00, 0x00, 0x00, 0x00, 0x00, 0x00, 0xff,
    0x00, 0x00]
  value := [0x16, 0xfe, 0xf0, 0x00, 0x00, 0x00, 0x00, 0x00, 0x00, 0x00, 0x00, 0x00, 0x00, 0x01,
    0x00, 0x00]
  mask_length := rfl
  value_length := rfl

def dltsServerHelloMatcher : MaskAndValue 16 where
  mask := [0xff, 0xff, 0xf0, 0x00, 0x00, 0x00, 0x00, 0x00, 0x00, 0x00, 0x00, 0x00, 0x00, 0xff,
    0x00, 0x00]
  value := [0x16, 0xfe, 0xf0, 0x00, 0x00, 0x00, 0x00, 0x00, 0x00, 0x00, 0x00, 0x00, 0x00, 0x02,
    0x00, 0x00]
  mask_length := rfl
  value_length := rfl

def dhcpClientMatcher : MaskAndValue 8 where
  mask := [0x01, 0x01, 0x06, 0x00, 0x00, 0x00, 0x00, 0x00]
  value := [0xff, 0xff, 0xff, 0xff, 0x00, 0x00, 0x00, 0x00]
  mask_length := rfl
  value_length := rfl

def dnsServerMatcher : MaskAndValue 8 where
  mask := [0x00, 0x00, 0xff, 0xff, 0xff, 0x00, 0xff, 0x00]
  value := [0x00, 0x00, 0x81, 0x80, 0x00, 0x00, 0x00, 0x00]
  mask_length := rfl
  value_length := rfl

/-- The 16-byte DNS client object: 8 bytes given, the rest zero. -/
def dnsClientMatcher : MaskAndValue 16 where
  mask := [0x00, 0x00, 0xff, 0xff, 0xff, 0x00, 0xff, 0x00, 0, 0, 0, 0, 0, 0, 0, 0]
  value := [0x00, 0x00, 0x01, 0x00, 0x00, 0x00, 0x00, 0x00, 0, 0, 0, 0, 0, 0, 0, 0]
  mask_length := rfl
  value_length := rfl

def wireguardMatcher : MaskAndValue 8 where
  mask := [0xff, 0xff, 0xff, 0xff, 0x00, 0x00, 0x00, 0x00]
  value := [0x01, 0x00, 0x00, 0x00, 0x00, 0x00, 0x00, 0x00]
  mask_length := rfl
  value_length := rfl

def quicMatcher : MaskAndValue 8 where
  mask := [0xf0, 0x00, 0xff, 0xff, 0x00, 0x00, 0x00, 0x00]
  value := [0xc0, 0x00, 0x00, 0x00, 0x00, 0x00, 0x00, 0x00]
  mask_length := rfl
  value_length := rfl

/-- No byte masked with `0x01` is `0xff`. -/
theorem dhcpClientMatcher_matches (data : List UInt8) (len : Nat) :
    dhcpClientMatcher.matches data len = false := by
  rw [Bool.eq_false_iff]
  intro h
  simp only [MaskAndValue.matches, Bool.and_eq_true, compareMaskedDataToValue_iff] at h
  have h0 := congrArg UInt8.toNat (h.2 0 (by decide))
  have hle := Nat.and_le_right (n := (data.getD 0 0).toNat) (m := 1)
  simp only [dhcpClientMatcher, List.getD_cons_zero, UInt8.and_toNat] at h0
  simp_all

/-- **The matcher objects of `udp.cc` against the classifier**: the DHCP object matches
nothing, the DNS client object asks for 16 bytes before the 8-byte test, and each other object
matches exactly the buffers of its width that pass the classifier's test for its rule. -/
theorem udp_matcher_objects (data : List UInt8) (len : Nat) :
    dhcpClientMatcher.matches data len = false ∧
    dnsClientMatcher.matches data len =
      (decide (16 ≤ len) && compareMaskedDataToValue 8 data dnsClientMask dnsClientValue) ∧
    dltsClientHelloMatcher.matches data len =
      (decide (16 ≤ len) &&
        compareMaskedDataToValue 16 data dtlsClientHelloMask dtlsClientHelloValue) ∧
    dltsServerHelloMatcher.matches data len =
      (decide (16 ≤ len) &&
        compareMaskedDataToValue 16 data dtlsServerHelloMask dtlsServerHelloValue) ∧
    dnsServerMatcher.matches data len =
      (decide (8 ≤ len) && compareMaskedDataToValue 8 data dnsServerMask dnsServerValue) ∧
    wireguardMatcher.matches data len =
      (decide (8 ≤ len) && compareMaskedDataToValue 8 data wireguardMask wireguardValue) ∧
    quicMatcher.matches data len =
      (decide (8 ≤ len) && compareMaskedDataToValue 8 data quicMask quicValue) :=
  ⟨dhcpClientMatcher_matches data len,
   congrArg (decide (16 ≤ len) && ·)
     (compareMaskedDataToValue_append_zeros 8 data dnsClientMask dnsClientValue rfl rfl),
   rfl, rfl, rfl, rfl, rfl⟩

end Mercury.Udp
