import Mathlib.Data.List.SplitBy
import SqlExpr.Text.Alphabetic

/-!
This module contains the tokens of SQL. A text is cut where two characters do not belong together
(`joins`), and what stands between the cuts is a mark of the language, a number or a name
(`Token.ofChars`). Tokens of a text in parts are the tokens of the parts, if no token goes over the
place where they meet (`tokens_append`).
-/

namespace SqlExpr

/--
The marks and words that the language reserves.
-/
inductive Mark where
  | placeholder
  | null
  | opening
  | closing
  | comma
  | dot
  | plus
  | minus
  | star
  | slash
  | percent
  | equal
  | notEqual
  | greater
  | greaterEqual
  | less
  | lessEqual
  | in
  | not
  | is
  | and
  | or
  | union
  | intersect
  | except
  | select
  | distinct
  | from
  | where
  | group
  | by
  | having
  | order
  | limit
  | offset
  deriving DecidableEq

namespace Mark

def text : Mark → String
  | .placeholder => "?"
  | .null => "NULL"
  | .opening => "("
  | .closing => ")"
  | .comma => ","
  | .dot => "."
  | .plus => "+"
  | .minus => "-"
  | .star => "*"
  | .slash => "/"
  | .percent => "%"
  | .equal => "="
  | .notEqual => "!="
  | .greater => ">"
  | .greaterEqual => ">="
  | .less => "<"
  | .lessEqual => "<="
  | .in => "IN"
  | .not => "NOT"
  | .is => "IS"
  | .and => "AND"
  | .or => "OR"
  | .union => "UNION"
  | .intersect => "INTERSECT"
  | .except => "EXCEPT"
  | .select => "SELECT"
  | .distinct => "DISTINCT"
  | .from => "FROM"
  | .where => "WHERE"
  | .group => "GROUP"
  | .by => "BY"
  | .having => "HAVING"
  | .order => "ORDER"
  | .limit => "LIMIT"
  | .offset => "OFFSET"

def all : List Mark :=
  [placeholder, null, opening, closing, comma, dot, plus, minus, star, slash, percent, equal,
    notEqual, greater, greaterEqual, less, lessEqual, .in, not, is, and, or, union, intersect,
    except, select, distinct, .from, .where, group, .by, having, order, limit, offset]

def ofText? (text : String) : Option Mark :=
  all.find? (·.text = text)

end Mark

inductive Token where
  | mark (m : Mark)
  | number (n : Nat)
  | name (s : String)
  | other (s : String)
  deriving DecidableEq

def isWord (c : Char) : Bool :=
  isAlphabetic c || c.isDigit || c == '_'

/--
Whether two characters in a row are in one token. Two minus signs, or a slash and a star, would be
the start of a comment, so they are not read one by one.
-/
def joins (a b : Char) : Bool :=
  isWord a && isWord b || b == '=' && (a == '<' || a == '>' || a == '!')
    || a == '-' && b == '-' || a == '/' && b == '*'

def isName : List Char → Bool
  | [] => false
  | c :: cs => (isAlphabetic c || c == '_') && cs.all isWord

def Token.ofChars (cs : List Char) : Token :=
  match Mark.ofText? (.ofList cs) with
  | some m => .mark m
  | none =>
    if cs.all Char.isDigit then .number (Nat.ofDigitChars 10 cs 0)
    else if isName cs then .name (.ofList cs)
    else .other (.ofList cs)

/--
The tokens of a text. Spaces are between tokens.
-/
def tokens (text : String) : List Token :=
  ((text.toList.splitBy joins).filter (· ≠ [' '])).map Token.ofChars

/--
Whether a text is a name that no mark is written like.
-/
def Identifier (text : String) : Prop :=
  isName text.toList = true ∧ Mark.ofText? text = none

instance (text : String) : Decidable (Identifier text) :=
  inferInstanceAs (Decidable (_ ∧ _))

/--
Whether no token goes over the place where two texts meet.
-/
def Apart (text text' : String) : Prop :=
  ∀ a ∈ text.toList.getLast?, ∀ b ∈ text'.toList.head?, joins a b = false

theorem tokens_append {text text' : String} (h : Apart text text') :
    tokens (text ++ text') = tokens text ++ tokens text' := by
  unfold tokens
  rw [String.toList_append, List.splitBy_append h, List.filter_append, List.map_append]

theorem tokens_mark (m : Mark) : tokens m.text = [.mark m] := by
  cases m <;> decide +kernel

theorem not_isDigit_text (m : Mark) : m.text.toList.all Char.isDigit = false := by
  cases m <;> rfl

theorem isWord_of_isName {cs : List Char} (h : isName cs = true) : ∀ c ∈ cs, isWord c = true := by
  cases cs with
  | nil => nofun
  | cons c cs =>
    simp only [isName, Bool.and_eq_true, List.all_eq_true] at h
    rw [List.forall_mem_cons]
    refine ⟨?_, h.2⟩
    unfold isWord
    rw [Bool.or_right_comm, h.1]
    rfl

theorem isChain_joins {cs : List Char} (h : ∀ c ∈ cs, isWord c = true) :
    cs.IsChain fun a b => joins a b := by
  induction cs with
  | nil => exact .nil
  | cons a cs ih =>
    rw [List.forall_mem_cons] at h
    cases cs with
    | nil => exact .singleton a
    | cons b cs =>
      apply List.IsChain.cons_cons _ (ih h.2)
      simp [joins, h.1, h.2 b List.mem_cons_self]

theorem tokens_of_isWord {text : String} (hne : text.toList ≠ [])
    (h : ∀ c ∈ text.toList, isWord c = true) : tokens text = [.ofChars text.toList] := by
  unfold tokens
  rw [List.splitBy_of_isChain hne (isChain_joins h)]
  have hspace : text.toList ≠ [' '] := by
    intro heq
    rw [heq] at h
    exact absurd (h ' ' List.mem_cons_self) (by decide +kernel)
  simp [hspace]

theorem isAlphabetic_of_isDigit {c : Char} (h : c.isDigit = true) : isAlphabetic c = false := by
  have hlt : c.toNat < 0x41 := by
    simp only [Char.isDigit, Bool.and_eq_true, decide_eq_true_eq, UInt32.le_iff_toNat_le] at h
    have hnine : c.toNat ≤ 57 := h.2
    omega
  have hfirst : ∀ range ∈ CharRanges.alphabetic, 0x41 ≤ range.1 := by decide +kernel
  rw [← Bool.not_eq_true, isAlphabetic_iff]
  rintro ⟨range, hrange, hle, _⟩
  have := hfirst range hrange
  omega

theorem not_isName_of_isDigit {c : Char} {cs : List Char} (h : c.isDigit = true) :
    isName (c :: cs) = false := by
  have hunderscore : (c == '_') = false := by
    rw [beq_eq_false_iff_ne]
    intro heq
    rw [heq] at h
    cases h
  simp [isName, isAlphabetic_of_isDigit h, hunderscore]

theorem tokens_name {text : String} (h : Identifier text) : tokens text = [.name text] := by
  obtain ⟨hname, hmark⟩ := h
  have hne : text.toList ≠ [] := by
    intro heq
    rw [heq] at hname
    cases hname
  have hdigits : text.toList.all Char.isDigit = false := by
    cases htext : text.toList with
    | nil => exact absurd htext hne
    | cons c cs =>
      cases hc : c.isDigit with
      | false => simp [hc]
      | true =>
        rw [htext, not_isName_of_isDigit hc] at hname
        cases hname
  rw [tokens_of_isWord hne (isWord_of_isName hname)]
  unfold Token.ofChars
  rw [String.ofList_toList, hmark]
  simp [hdigits, hname]

theorem tokens_number (n : Nat) : tokens (Nat.repr n) = [.number n] := by
  have hdigits : ∀ c ∈ (Nat.repr n).toList, c.isDigit = true := by
    intro c hmem
    rw [Nat.toList_repr] at hmem
    apply Nat.isDigit_of_mem_toDigits (by decide) (by decide) hmem
  have hword : ∀ c ∈ (Nat.repr n).toList, isWord c = true := by
    intro c hmem
    simp [isWord, hdigits c hmem]
  have hne : (Nat.repr n).toList ≠ [] := by
    rw [Nat.toList_repr]
    apply Nat.toDigits_ne_nil
  have hmark : Mark.ofText? (Nat.repr n) = none := by
    cases hm : Mark.ofText? (Nat.repr n) with
    | none => rfl
    | some m =>
      have htext := List.find?_some hm
      rw [decide_eq_true_eq] at htext
      rw [← htext, ← List.all_eq_true, not_isDigit_text] at hdigits
      contradiction
  rw [tokens_of_isWord hne hword]
  unfold Token.ofChars
  rw [String.ofList_toList, hmark]
  simp only [List.all_eq_true.2 hdigits, if_true]
  rw [Nat.toList_repr, Nat.ofDigitChars_ten_toDigits]

end SqlExpr
