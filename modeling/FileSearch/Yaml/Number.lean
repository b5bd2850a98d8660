import FileSearch.Decimal.Binary64
import FileSearch.Text.Blank
import FileSearch.Text.Case
import FileSearch.Yaml.Token.Scalar

/-!
# Numbers in settings texts

Integers are decimal, binary, octal with a leading zero, hexadecimal, or in base sixty
with colons; real numbers have a point. Underscores between digits are left out.
-/

set_option autoImplicit false

namespace FileSearch.Yaml.Number

def isSign (c : Char) : Bool := c = '+' || c = '-'

def withoutSign : List Char → List Char
  | c :: s => if isSign c then s else c :: s
  | [] => []

def isSpaced (p : Char → Bool) (c : Char) : Bool := p c || c = '_'

def colonParts : List Char → List (List Char)
  | [] => [[]]
  | c :: s =>
    if c = ':' then [] :: colonParts s
    else match colonParts s with
      | [] => [[c]]
      | part :: parts => (c :: part) :: parts

def isBinary (c : Char) : Bool := c = '0' || c = '1'

def isOctal (c : Char) : Bool := '0' ≤ c && c ≤ '7'

def isHex (c : Char) : Bool := (Scalar.hexValue? c).isSome

def isSixtieth : List Char → Bool
  | [c] => c.isDigit
  | [c, d] => '0' ≤ c && c ≤ '5' && d.isDigit
  | _ => false

def isDigitRun (first : Char → Bool) : List Char → Bool
  | c :: s => first c && s.all (isSpaced Char.isDigit)
  | [] => false

def isNonZero (c : Char) : Bool := c.isDigit && c != '0'

def isInteger (s : List Char) : Bool :=
  match withoutSign s with
  | '0' :: 'b' :: ds => !ds.isEmpty && ds.all (isSpaced isBinary)
  | '0' :: 'x' :: ds => !ds.isEmpty && ds.all (isSpaced isHex)
  | '0' :: ds => ds.all (isSpaced isOctal)
  | s =>
    match colonParts s with
    | whole :: parts => isDigitRun isNonZero whole && parts.all isSixtieth
    | [] => false

def isExponent : List Char → Bool
  | [] => true
  | e :: sign :: ds => (e = 'e' || e = 'E') && isSign sign && !ds.isEmpty && ds.all Char.isDigit
  | _ => false

def isFraction (s : List Char) : Bool := isExponent (s.dropWhile (isSpaced Char.isDigit))

def isReal (s : List Char) : Bool :=
  let body := withoutSign s
  let whole := body.takeWhile (· != '.')
  match body.dropWhile (· != '.') with
  | [] => false
  | _ :: fraction =>
    match whole with
    | [] =>
      let word := String.ofList fraction
      word ∈ ["inf", "Inf", "INF"] || (body = s && word ∈ ["nan", "NaN", "NAN"]) ||
        (body = s && (fraction.head?.map Char.isDigit).getD false && isFraction fraction)
    | _ =>
      match colonParts whole with
      | [whole] => isDigitRun Char.isDigit whole && isFraction fraction
      | whole :: parts =>
        isDigitRun Char.isDigit whole && parts.all isSixtieth &&
          fraction.all (isSpaced Char.isDigit)
      | [] => false

def digitsIn? (base : Nat) (s : List Char) : Option Nat :=
  if s.isEmpty then none
  else s.foldlM (fun n c => do
    let d ← Scalar.hexValue? c
    if d < base then some (base * n + d) else none) 0

def baseLetter (base : Nat) : Char :=
  if base = 2 then 'b' else if base = 8 then 'o' else 'x'

def unsignedIn? (base : Nat) (s : List Char) : Option Nat :=
  match s with
  | '0' :: c :: rest =>
    if base != 10 && c.toLower = baseLetter base then digitsIn? base rest else digitsIn? base s
  | _ => digitsIn? base s

def integerIn (base : Nat) (s : List Char) : Except BadValue Int :=
  let trimmed := Text.trim s
  match unsignedIn? base (withoutSign trimmed) with
  | some n => .ok (if trimmed.head? = some '-' then -(n : Int) else n)
  | none => .error (.integer base (String.ofList s))

def sixties (digits : List Int) : Int := digits.foldl (fun n d => 60 * n + d) 0

def withoutSpacing (s : List Char) : List Char := s.filter (· != '_')

def integer (text : List Char) : Except BadValue Int := do
  let s := withoutSpacing text
  let body := withoutSign s
  let magnitude ←
    match body with
    | [] => .error .emptyNumber
    | ['0'] => .ok 0
    | '0' :: 'b' :: ds => integerIn 2 ds
    | '0' :: 'x' :: ds => integerIn 16 ds
    | '0' :: _ => integerIn 8 body
    | _ =>
      if body.contains ':' then do
        let digits ← (colonParts body).mapM (integerIn 10)
        .ok (sixties digits)
      else integerIn 10 body
  .ok (if s.head? = some '-' then -magnitude else magnitude)

def decimal? (s : List Char) : Option (Nat × Int) :=
  let whole := s.takeWhile Char.isDigit
  let rest := s.dropWhile Char.isDigit
  let (places, rest) :=
    match rest with
    | '.' :: more => (more.takeWhile Char.isDigit, more.dropWhile Char.isDigit)
    | _ => ([], rest)
  match digitsIn? 10 (whole ++ places) with
  | none => none
  | some digits =>
    match rest with
    | [] => some (digits, -places.length)
    | 'e' :: power =>
      match digitsIn? 10 (withoutSign power) with
      | some n =>
        let n : Int := n
        some (digits, (if power.head? = some '-' then -n else n) - places.length)
      | none => none
    | _ => none

def infiniteWords : List String := ["inf", "infinity"]

def unsignedReal? (negative : Bool) (s : List Char) : Option Decimal.Binary64 :=
  if String.ofList s ∈ infiniteWords then some (.infinite negative)
  else if String.ofList s = "nan" then some .undefined
  else (decimal? s).map fun (digits, power) => .ofDecimal negative digits power

def realIn (negative : Bool) (s : List Char) : Except BadValue Decimal.Binary64 :=
  let trimmed := Text.trim s
  let flipped := trimmed.head? = some '-'
  match unsignedReal? (negative != flipped) (withoutSign trimmed) with
  | some x => .ok x
  | none => .error (.real (String.ofList s))

def realSixties (weight : Nat) (sum : Decimal.Binary64) : List Decimal.Binary64 → Decimal.Binary64
  | [] => sum
  | part :: parts => realSixties (60 * weight) (sum.add (part.scale weight)) parts

def signed (negative : Bool) (x : Decimal.Binary64) : Decimal.Binary64 :=
  if negative then x.negate else x

def real (text : List Char) : Except BadValue Decimal.Binary64 :=
  let s := Text.lower (withoutSpacing text)
  let negative := s.head? = some '-'
  let body := withoutSign s
  if s.isEmpty then .error .emptyNumber
  else if body = ['.', 'i', 'n', 'f'] then .ok (.infinite negative)
  else if body = ['.', 'n', 'a', 'n'] then .ok .undefined
  else if body.contains ':' then do
    let parts ← (colonParts body).mapM (realIn false)
    .ok (signed negative (realSixties 1 (.ofSigned 0 1) parts.reverse))
  else realIn negative body

end FileSearch.Yaml.Number
