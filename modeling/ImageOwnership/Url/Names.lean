/-!
Names of hosts beyond ASCII. Such a name is sent in a form of ASCII characters that begins with a mark,
and a host with the mark is read as the name behind it where hosts are compared. Which names have a form,
and which names are behind a form, depends on tables of all characters. The tables are given from
outside, together with what is relied upon: no form stands for a name that is ASCII itself.
-/

namespace ImageOwnership.Url

def isAscii (text : List Char) : Bool :=
  text.all (·.toNat < 0x80)

/-- What the tables say about names and their forms. -/
structure HostNames where
  /-- The form of a name as it is written, if it has one. -/
  encode? : List Char → Option (List Char)
  /-- The name behind a form, or what is wrong with the form. -/
  decode : List Char → Except String (List Char)
  decode_foreign {form name : List Char} : decode form = .ok name → isAscii name = false

namespace HostNames

def mark : List Char := "xn--".toList

/-- What can be said against a label without tables. -/
def checkLabel (label : List Char) : Except String Unit :=
  if label = mark then
    .error "Malformed A-label, no Punycode eligible content found"
  else if mark.isPrefixOf label && label.getLast? = some '-' then
    .error "A-label must not end with a hyphen"
  else
    .ok ()

/-- Tables in which each form stands for itself with a mark of its own, unless one of its labels is
flawed. -/
def verbatim : HostNames where
  encode?
    | '…' :: text => some (mark ++ text)
    | _ => none
  decode form := do
    (form.splitOn '.').forM checkLabel
    return '…' :: form.drop mark.length
  decode_foreign {form name} read := by
    cases checked : (form.splitOn '.').forM checkLabel with
    | error reason =>
        rw [checked] at read
        cases read
    | ok _ =>
        rw [checked] at read
        cases read
        rfl

/-- A host as it is read: only one with the mark is looked up. -/
def read (names : HostNames) (host : List Char) : Except String (List Char) :=
  if mark.isPrefixOf host then names.decode host else .ok host

end HostNames

end ImageOwnership.Url
