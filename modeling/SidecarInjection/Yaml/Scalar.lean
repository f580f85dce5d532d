import SidecarInjection.Decimal.Double
import SidecarInjection.Json.Basic
import SidecarInjection.Yaml.Node

/-!
# `SidecarInjection.Yaml.Scalar`: what scalars stand for

A plain scalar stands for null, a flag, a number or its own text. A quoted one
stands for its text. A standard tag overrides this.
-/

set_option autoImplicit false

namespace SidecarInjection.Yaml.Scalar

/-- Whether a text is a word for null. -/
def isNull (s : String) : Bool := ["null", "Null", "NULL", "~"].contains s

/-- The flag that a text is a word for. -/
def flag? (s : String) : Option Bool :=
  if ["true", "True", "TRUE"].contains s then some true
  else if ["false", "False", "FALSE"].contains s then some false
  else none

/-- The value of a digit in bases up to sixteen. -/
def digitValue? (base : Nat) (c : Char) : Option Nat :=
  let n := c.toNat
  let v :=
    if 48 ≤ n && n ≤ 57 then some (n - 48)
    else if 97 ≤ n && n ≤ 102 then some (n - 87)
    else if 65 ≤ n && n ≤ 70 then some (n - 55)
    else none
  v.filter (· < base)

/-- The number written by one or more digits of a base. -/
def digits? (base : Nat) (cs : List Char) : Option Nat :=
  if cs.isEmpty then none
  else cs.foldlM (fun n c => (digitValue? base c).map fun v => n * base + v) 0

/-- The number written after the mark of a base. -/
def based? : List Char → Option Nat
  | '0' :: 'x' :: cs => digits? 16 cs
  | '0' :: 'o' :: cs => digits? 8 cs
  | '0' :: 'b' :: cs => digits? 2 cs
  | _ => none

/-- Without a sign in front. -/
def dropSign : List Char → List Char
  | '+' :: cs => cs
  | '-' :: cs => cs
  | cs => cs

/-- Whether a text is a zero and further digits, which is no number. -/
def isZeroLed (s : String) : Bool :=
  match dropSign s.toList with
  | '0' :: c :: cs => (c :: cs).all Decimal.isDigit
  | _ => false

/-- The whole number that a text writes, of any size. -/
def int? (s : String) : Option Int :=
  match s.toList with
  | '-' :: cs =>
    ((based? cs).or (if isZeroLed s then none else digits? 10 cs)).map fun n => -(n : Int)
  | '+' :: cs =>
    ((based? cs).or (if isZeroLed s then none else digits? 10 cs)).map fun n => (n : Int)
  | cs => ((based? cs).or (if isZeroLed s then none else digits? 10 cs)).map fun n => (n : Int)

/-- The number with a fraction or an exponent that a text writes. Infinities and
the value that is no number have no JSON form other than `null`. -/
def float? (s : String) : Option Json :=
  if [".inf", ".Inf", ".INF", "+.inf", "+.Inf", "+.INF", "-.inf", "-.Inf", "-.INF",
      ".nan", ".NaN", ".NAN"].contains s then some .null
  else (Decimal.Double.read? s.toList).map .float

/-- The least whole number that needs more than 128 bits. -/
def tooLarge (n : Int) : Bool := Int.pow 2 128 ≤ n || n < -Int.pow 2 127

/-- The value of a whole number. Numbers beyond 64 bits have none. -/
def intValue? (n : Int) : Option Json :=
  if -Int.pow 2 63 ≤ n && n < Int.pow 2 64 then some (.int n) else none

/-- The value of a plain scalar without a tag. There is none for whole numbers
between 64 and 128 bits. -/
def plain? (s : String) : Option Json :=
  if s.isEmpty || isNull s then some .null
  else
    match flag? s, (int? s).filter (!tooLarge ·) with
    | some b, _ => some (.bool b)
    | none, some n => intValue? n
    | none, none =>
      if isZeroLed s then some (.str s) else some ((float? s).getD (.str s))

/-- The standard tag of this name. -/
def standard (name : String) : Tag := Tag.ofAscii ("tag:yaml.org,2002:" ++ name).toList

/-- Whether a tag starts with an exclamation mark. -/
def isMarked (tag : Tag) : Bool := tag.head? = some 33

/-- Whether a tag is a local one: its name after the exclamation mark is a text. -/
def isLocal (tag : Option Tag) : Bool :=
  tag.any fun t => isMarked t && (String.fromUTF8? (ByteArray.mk t.tail.toArray)).isSome

/-- The value of a scalar. Local tags have no meaning here. -/
def value? (tag : Option Tag) (style : ScalarStyle) (s : String) : Option Json :=
  match tag with
  | some t =>
    if isLocal (some t) then none
    else if t = standard "bool" then (flag? s).map .bool
    else if t = standard "int" then ((int? s).filter (!tooLarge ·)).bind intValue?
    else if t = standard "float" then float? s
    else if t = standard "null" then (if isNull s then some .null else none)
    else if isMarked t && style = .plain then plain? s
    else some (.str s)
  | none => if style = .plain then plain? s else some (.str s)

end SidecarInjection.Yaml.Scalar
