/-
**Comma-separated tables.**

Fields are separated by commas and records end with a line feed. A field with a comma, a quote or a
line break stands between quotes, and a quote inside it is written twice. A record whose only field
is empty is a pair of quotes, so that it differs from an empty line. All records have the length of
the first.
-/

namespace MultipleShooting

namespace Csv

/-- Whether a field has to stand between quotes. -/
def needsQuotes (field : List Char) : Bool :=
  field.any fun char => char == ',' || char == '"' || char == '\n' || char == '\r'

/-- A field between quotes. -/
def quoted (field : List Char) : List Char :=
  '"' :: (field.flatMap (fun char => if char = '"' then ['"', '"'] else [char]) ++ ['"'])

/-- A field as it is written. -/
def writeField (field : List Char) : List Char := if needsQuotes field then quoted field else field

/-- A record with its line feed. -/
def writeRecord : List (List Char) → List Char
  | [[]] => ['"', '"', '\n']
  | fields => List.intercalate [','] (fields.map writeField) ++ ['\n']

/-- A record of another length than the one before it. -/
structure LengthFault where
  found : Nat
  expected : Nat
deriving Repr, DecidableEq

/-- The wording of a record of another length. -/
def LengthFault.message (fault : LengthFault) : String :=
  "CSV error: found record with " ++ toString fault.found ++
    " fields, but the previous record has " ++ toString fault.expected ++ " fields"

/-- Records of the given length. -/
def writeRecords (length : Nat) : List (List (List Char)) → Except LengthFault (List Char)
  | [] => .ok []
  | record :: records =>
    if record.length = length then (writeRecords length records).map (writeRecord record ++ ·)
    else .error ⟨record.length, length⟩

/-- A table with a header and records of its length. -/
def write (header : List (List Char)) (records : List (List (List Char))) :
    Except LengthFault (List Char) :=
  (writeRecords header.length records).map (writeRecord header ++ ·)

end Csv

end MultipleShooting
