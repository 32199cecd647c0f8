import RelayGateway.Url

/-! # What a request asks a server for

The path and the query of a URL with a special scheme, in the form in which they are sent: segments of
one or two dots are resolved, and characters that may not stand in them are escaped as bytes.
-/
namespace RelayGateway.Url

def pathMarks : List Char := [' ', '"', '<', '>', '\x60', '#', '?', '\x7b', '\x7d']

def fragmentMarks : List Char := [' ', '"', '<', '>', '\x60']

def queryMarks : List Char := [' ', '"', '#', '<', '>', '\'']

def dropDot? : List Char → Option (List Char)
  | '.' :: cs => some cs
  | '%' :: '2' :: c :: cs => if c = 'e' ∨ c = 'E' then some cs else none
  | _ => none

def isDot (segment : List Char) : Bool := dropDot? segment = some []

def isDoubleDot (segment : List Char) : Bool := (dropDot? segment).bind dropDot? = some []

/-- Resolves dots; `done` are the segments so far, the last one first. A path that ends in dots ends
in a slash. -/
def resolve (done : List (List Char)) : List (List Char) → List (List Char)
  | [] => done.reverse
  | segment :: rest =>
    let done :=
      if isDoubleDot segment then done.drop 1
      else if isDot segment then done
      else segment :: done
    if rest = [] && (isDoubleDot segment || isDot segment) then ([] :: done).reverse
    else resolve done rest

def renderPath (cs : List Char) : List Char :=
  let cs :=
    match cs with
    | c :: rest => if isSlash c then rest else cs
    | [] => []
  (resolve [] (Text.split isSlash cs)).flatMap fun segment => '/' :: escape pathMarks segment

def afterAuthority (text : String) : List Char :=
  match scheme? (significant text) with
  | none => []
  | some (_, rest) => (rest.dropWhile isSlash).dropWhile (!endsAuthority .special ·)

def target (text : String) : String :=
  let cs := (afterAuthority text).takeWhile (· ≠ '#')
  let query :=
    match cs.dropWhile (· ≠ '?') with
    | _ :: query => '?' :: escape queryMarks query
    | [] => []
  String.ofList (renderPath (cs.takeWhile (· ≠ '?')) ++ query)

def fragment (text : String) : List Char :=
  match (afterAuthority text).dropWhile (· ≠ '#') with
  | _ :: cs => '#' :: escape fragmentMarks cs
  | [] => []

def originChars (url : Url) : List Char :=
  let port :=
    match url.port with
    | some n => ':' :: Nat.toDigits 10 n
    | none => []
  url.scheme.toList ++ ':' :: '/' :: '/' :: (url.host.elim [] Host.chars ++ port)

end RelayGateway.Url
