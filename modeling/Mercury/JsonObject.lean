/-
The writes every `write_json` of the sources makes.

`json_object` and `json_array` are declared in `json_object.h`, outside the sources.  The
writers call them with a key and a typed value, in an order the writer fixes; the model records
each call as the key and a `JsonValue`, in that order, and leaves the text encoding out.
-/
import Mathlib.Data.List.Basic

namespace Mercury

/-- The typed writes a writer makes on its object. -/
inductive JsonValue where
  /-- `print_key_json_string`: the bytes of a view, escaped by the writer -/
  | jsonString (bytes : List UInt8)
  /-- `print_key_string` -/
  | string (s : String)
  /-- `print_key_int` -/
  | int (n : Int)
  /-- `print_key_uint` -/
  | uint (n : Nat)
  /-- `print_key_hex`: bytes in memory order -/
  | hex (bytes : List UInt8)
  /-- `print_key_uint16_hex` -/
  | uint16Hex (n : Nat)
  /-- `print_key_ipv4_addr`: the four bytes at the pointer, in network order -/
  | ipv4Addr (bytes : List UInt8)
  /-- `print_key_bool` -/
  | bool (b : Bool)
  /-- `print_key_float`: a `double`, as its 64 bits -/
  | float (bits : UInt64)
  /-- a `json_array` of `print_string` calls -/
  | array (items : List String)
  deriving DecidableEq, Repr

end Mercury
