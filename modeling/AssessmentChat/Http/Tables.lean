import AssessmentChat.Http.Host
import AssessmentChat.Text.Utf16

namespace AssessmentChat.Http

/-!
# Tables of names

Two things are looked up in tables that standards keep: how the name of a host is
written in ASCII when it has letters of other scripts, and how bytes are read as text
in a charset.  An exchange takes both as they are given.
-/

/-- What is looked up in the tables of standards. -/
structure Tables where
  /-- The name of a host in ASCII, if it is a name, for one with letters of other scripts. -/
  internationalName? : List Char → Option (List Char)
  /-- How bytes are read, if the type of a content names a charset that is known. -/
  charset? : String → Option (List UInt8 → String)

/-- Names that are written in ASCII as they stand, and no charsets. -/
def Tables.plain : Tables where
  internationalName? name := some (Host.punycodeName name)
  charset? _ := none

end AssessmentChat.Http
