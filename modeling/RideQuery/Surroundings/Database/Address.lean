import RideQuery.Number.Numeral
import RideQuery.Text.Word

/-!
# Database addresses

The parts of an address such as `sqlite:///rides.db`: a dialect, possibly a user, a
password, a host and a port, and what is left for the dialect to interpret.
-/

namespace RideQuery.Database

open RideQuery.Text RideQuery.Number

/-- The parts of an address; an absent part is empty. -/
structure Address where
  dialect : String
  user : List Char
  password : List Char
  host : List Char
  port : List Char

namespace Address

/-- The characters that the name of a dialect is made of. -/
def isDialectChar (c : Char) : Bool :=
  isWordChar c || c == '+'

/-- A user and a password in front of an at sign, and the text behind it. -/
def readUser (text : List Char) : List Char × List Char × List Char :=
  let span := text.takeWhile fun c => c != ':' && c != '/'
  let beyond := text.drop span.length
  let password := (beyond.drop 1).takeWhile (· != '@')
  if beyond.head? == some ':' && (beyond.drop (1 + password.length)).head? == some '@' then
    (span, password, beyond.drop (2 + password.length))
  else if span.contains '@' then
    let tail := span.reverse.takeWhile (· != '@')
    let user := span.take (span.length - tail.length - 1)
    (user, [], text.drop (user.length + 1))
  else
    ([], [], text)

/-- A host, possibly between brackets, and the text behind it. -/
def readHost (text : List Char) : List Char × List Char :=
  let inner := (text.drop 1).takeWhile fun c => c != '/' && c != '?'
  let bracketed := inner.reverse.dropWhile (· != ']')
  if text.head? == some '[' && 1 < bracketed.length then
    ((bracketed.drop 1).reverse, text.drop (1 + bracketed.length))
  else
    let host := text.takeWhile fun c => c != '/' && c != ':' && c != '?'
    (host, text.drop host.length)

/-- A port behind a colon. -/
def readPort : List Char → List Char
  | ':' :: rest => rest.takeWhile fun c => c != '/' && c != '?'
  | _ => []

/-- The parts of an address. -/
def read? (text : String) : Option Address :=
  let dialect := text.toList.takeWhile isDialectChar
  match text.toList.drop dialect.length with
  | ':' :: '/' :: '/' :: rest =>
    if dialect.isEmpty then none
    else
      let (user, password, rest) := readUser rest
      let (host, rest) := readHost rest
      some { dialect := String.ofList dialect, user, password, host, port := readPort rest }
  | _ => none

/-- Whether an address speaks of a user or a password. -/
def hasAccount (address : Address) : Bool :=
  !address.user.isEmpty || !address.password.isEmpty

/-- The number of the port, nought if there is none. -/
def portNumber (address : Address) : Except NumberError Int :=
  if address.port.isEmpty then .ok 0 else readInteger address.port

end Address

end RideQuery.Database
