import SidecarInjection.Decimal.Natural
import SidecarInjection.Json.Basic

/-!
# `SidecarInjection.Json.Pointer`: places in a JSON value

A pointer is a list of tokens: member names and array positions. In its text
every token follows a slash, with `~` written `~0` and `/` written `~1`.

* `get?`, `modify?`: the value at a pointer, and the document with it changed.
* `index?_text`: the decimal text of a position is read as that position.
-/

set_option autoImplicit false

namespace SidecarInjection

/-- A place in a JSON value, as the tokens on the way to it. -/
abbrev Pointer := List String

namespace Pointer

/-- One character of a token in the text of a pointer. -/
def escapeChar (c : Char) : List Char :=
  if c = '~' then ['~', '0'] else if c = '/' then ['~', '1'] else [c]

/-- The characters of a token in the text of a pointer. -/
def escape (token : List Char) : List Char := token.flatMap escapeChar

/-- The token that escaped characters stand for. A `~` stands only before `0`
or `1`. -/
def unescape? : List Char → Option (List Char)
  | [] => some []
  | '~' :: '0' :: rest => (unescape? rest).map ('~' :: ·)
  | '~' :: '1' :: rest => (unescape? rest).map ('/' :: ·)
  | c :: rest => if c = '~' then none else (unescape? rest).map (c :: ·)

/-- The text of a pointer. -/
def text (p : Pointer) : String :=
  String.ofList (p.flatMap fun token => '/' :: escape token.toList)

/-- The pointer that a text denotes. The empty text is the whole document, and
any other text starts with a slash. -/
def ofText? (s : String) : Option Pointer :=
  match s.toList with
  | [] => some []
  | '/' :: rest =>
    (rest.splitOn '/').mapM fun token => (unescape? token).map String.ofList
  | _ => none

/-- The position an array token denotes: decimal digits without a leading zero. -/
def index? (token : String) : Option Nat :=
  match token.toList with
  | '0' :: _ :: _ => none
  | cs => Decimal.read cs

/-- The token of a position. -/
def ofIndex (i : Nat) : String := Decimal.text i

/-- The value at a pointer. -/
def get? : Pointer → Json → Option Json
  | [], doc => some doc
  | token :: rest, .obj ms => (Dict.get? ms token).bind (get? rest)
  | token :: rest, .arr items => (index? token).bind fun i => items[i]?.bind (get? rest)
  | _ :: _, _ => none

/-- The document with the value at a pointer replaced by the result of `f`.
There is none when the pointer leads nowhere or `f` has no result. -/
def modify? : Pointer → (Json → Option Json) → Json → Option Json
  | [], f, doc => f doc
  | token :: rest, f, .obj ms =>
    (Dict.get? ms token).bind fun child =>
      (modify? rest f child).map fun new => .obj (Dict.insert ms token new)
  | token :: rest, f, .arr items =>
    (index? token).bind fun i =>
      items[i]?.bind fun child => (modify? rest f child).map fun new => .arr (items.set i new)
  | _ :: _, _, _ => none

/-- Only the numeral of zero begins with a zero. This is what lets the reader of indices refuse
leading zeros. -/
theorem render_of_zero_lead {n : Nat} {rest : List Char} (h : Decimal.render n = '0' :: rest) :
    rest = [] := by
  induction n using Nat.strongRecOn generalizing rest with
  | _ n ih =>
    rw [Decimal.render] at h
    split at h
    · simp at h
      exact h.2
    · rename_i hn
      have hne := Decimal.render_ne_nil (n / 10)
      obtain ⟨c, cs, hcs⟩ := List.exists_cons_of_ne_nil hne
      rw [hcs] at h
      simp only [List.cons_append, List.cons.injEq] at h
      obtain ⟨hc, _⟩ := h
      subst hc
      have hnil := ih (n / 10) (Nat.div_lt_self (by omega) (by decide)) hcs
      subst hnil
      have := Decimal.readFrom_render (n / 10)
      rw [hcs] at this
      simp [Decimal.readFrom, Decimal.isDigit, Decimal.digitValue] at this
      omega

/-- The token of an index is read as this index. -/
@[simp] theorem index?_ofIndex (i : Nat) : index? (ofIndex i) = some i := by
  simp only [index?, ofIndex, Decimal.text, String.toList_ofList]
  split
  · rename_i c rest h
    exact absurd (render_of_zero_lead h) (by simp)
  · exact Decimal.read_render i

end Pointer

end SidecarInjection
