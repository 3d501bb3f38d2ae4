import Mercury.Datum
import Mercury.Matcher
import Mercury.JsonObject
import Mercury.Udp
import Mercury.Tofsee
import Mercury.Http
import Mercury.Mysql.Greet
import Mercury.Mysql.Language
import Mercury.Mysql.Json
import Mercury.Mysql.Accepts
import Mercury.Api
