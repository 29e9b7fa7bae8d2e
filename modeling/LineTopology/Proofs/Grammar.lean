import LineTopology.Proofs.Trees

namespace LineTopology.Proofs.Grammar

open Text Json Trees

/-- What a text holds, apart from its blanks: the letters of numerals and of quoted texts as they
stand there, and the members of an object in their order. -/
inductive Form
  | null
  | boolean (value : Bool)
  | numeral (letters : List Char)
  | quoted (letters : List Char)
  | array (items : List Form)
  | object (members : List (List Char × Form))

def Blank (cs : List Char) : Prop := ∀ c ∈ cs, Cursor.isSpace c = true

theorem blank_nil : Blank [] := by simp [Blank]

section Quotations

def unit? (a b c d : Char) : Option Nat := do
  let a ← hexValue? a
  let b ← hexValue? b
  let c ← hexValue? c
  let d ← hexValue? d
  return 16 * (16 * (16 * a + b) + c) + d

def isPlain (c : Char) : Bool := c ≠ '"' && c ≠ '\\' && 0x20 ≤ c.toNat

/-- The letters that may stand between quotes. They need not write a text: the units of a surrogate
pair may also stand alone. -/
inductive Quotable : List Char → Prop
  | nil : Quotable []
  | plain {c : Char} {cs : List Char} : isPlain c = true → Quotable cs → Quotable (c :: cs)
  | escape {c x : Char} {cs : List Char} :
      Quotation.simpleEscape? c = some x → Quotable cs → Quotable ('\\' :: c :: cs)
  | unit {a b c d : Char} {n : Nat} {cs : List Char} :
      unit? a b c d = some n → Quotable cs → Quotable ('\\' :: 'u' :: a :: b :: c :: d :: cs)

inductive Spells : List Char → List Char → Prop
  | nil : Spells [] []
  | plain {c : Char} {cs xs : List Char} :
      isPlain c = true → Spells cs xs → Spells (c :: cs) (c :: xs)
  | escape {c x : Char} {cs xs : List Char} :
      Quotation.simpleEscape? c = some x → Spells cs xs → Spells ('\\' :: c :: cs) (x :: xs)
  | unit {a b c d : Char} {n : Nat} {cs xs : List Char} :
      unit? a b c d = some n → Quotation.isLead n = false → Quotation.isTrail n = false →
      Spells cs xs → Spells ('\\' :: 'u' :: a :: b :: c :: d :: cs) (Char.ofNat n :: xs)
  | pair {a b c d a' b' c' d' : Char} {lead trail : Nat} {cs xs : List Char} :
      unit? a b c d = some lead → Quotation.isLead lead = true →
      unit? a' b' c' d' = some trail → Quotation.isTrail trail = true → Spells cs xs →
      Spells ('\\' :: 'u' :: a :: b :: c :: d :: '\\' :: 'u' :: a' :: b' :: c' :: d' :: cs)
        (Quotation.paired lead trail :: xs)

variable {cs xs : List Char}

theorem Spells.quotable (h : Spells cs xs) : Quotable cs := by
  induction h with
  | nil => exact .nil
  | plain hc _ ih => exact .plain hc ih
  | escape hc _ ih => exact .escape hc ih
  | unit hn _ _ _ ih => exact .unit hn ih
  | pair hlead _ htrail _ _ ih => exact .unit hlead (.unit htrail ih)

end Quotations

section Numerals

def Digits (ds : List Char) : Prop := ds ≠ [] ∧ ∀ d ∈ ds, isDigit d = true

inductive IsWhole : List Char → Prop
  | zero : IsWhole ['0']
  | digits {d : Char} {ds : List Char} : d ≠ '0' → Digits (d :: ds) → IsWhole (d :: ds)

inductive IsFraction : List Char → Prop
  | absent : IsFraction []
  | point {ds : List Char} : Digits ds → IsFraction ('.' :: ds)

inductive IsExponent : List Char → Prop
  | absent : IsExponent []
  | mark {e : Char} {sign ds : List Char} :
      Numeral.isExponentMark e = true → sign = [] ∨ sign = ['+'] ∨ sign = ['-'] → Digits ds →
      IsExponent (e :: (sign ++ ds))

inductive IsUnsigned : List Char → Prop
  | parts {whole fraction exponent : List Char} :
      IsWhole whole → IsFraction fraction → IsExponent exponent →
      IsUnsigned (whole ++ (fraction ++ exponent))

inductive IsNumeral : List Char → Prop
  | positive {cs : List Char} : IsUnsigned cs → IsNumeral cs
  | negative {cs : List Char} : IsUnsigned cs → IsNumeral ('-' :: cs)

end Numerals

section Texts

structure Slot where
  before : List Char
  core : List Char
  behind : List Char
  form : Form

namespace Slot

def text (s : Slot) : List Char := s.before ++ (s.core ++ s.behind)

def Apart (s : Slot) : Prop := Blank s.before ∧ Blank s.behind

end Slot

structure Entry where
  beforeKey : List Char
  key : List Char
  behindKey : List Char
  slot : Slot

namespace Entry

def member (e : Entry) : List Char × Form := (e.key, e.slot.form)

def lead (e : Entry) : List Char := e.beforeKey ++ '"' :: (e.key ++ '"' :: (e.behindKey ++ [':']))

def text (e : Entry) : List Char := e.lead ++ e.slot.text

def Apart (e : Entry) : Prop := Blank e.beforeKey ∧ Blank e.behindKey ∧ e.slot.Apart

end Entry

inductive Writes : Form → List Char → Prop
  | null : Writes .null ['n', 'u', 'l', 'l']
  | yes : Writes (.boolean true) ['t', 'r', 'u', 'e']
  | no : Writes (.boolean false) ['f', 'a', 'l', 's', 'e']
  | numeral {cs : List Char} : IsNumeral cs → Writes (.numeral cs) cs
  | quoted {cs : List Char} : Quotable cs → Writes (.quoted cs) ('"' :: (cs ++ ['"']))
  | array {slots : List Slot} {gap : List Char} :
      Blank gap → (∀ s ∈ slots, s.Apart) → (∀ s ∈ slots, Writes s.form s.core) →
      Writes (.array (slots.map Slot.form)) ('[' :: (gap ++ pieces ']' true (slots.map Slot.text)))
  | object {entries : List Entry} {gap : List Char} :
      Blank gap → (∀ e ∈ entries, e.Apart) → (∀ e ∈ entries, Quotable e.key) →
      (∀ e ∈ entries, Writes e.slot.form e.slot.core) →
      Writes (.object (entries.map Entry.member))
        ('\x7b' :: (gap ++ pieces '\x7d' true (entries.map Entry.text)))

/-- The text is well formed, and this is what it holds. -/
def Holds (form : Form) (text : String) : Prop :=
  ∃ before core behind, Blank before ∧ Writes form core ∧ Blank behind ∧
    text.toList = before ++ (core ++ behind)

end Texts

section Heads

variable {form : Form} {core : List Char}

theorem IsWhole.allDigits {ds : List Char} (h : IsWhole ds) : Digits ds := by
  cases h with
  | zero => exact ⟨List.cons_ne_nil _ _, List.forall_mem_singleton.mpr rfl⟩
  | digits _ hds => exact hds

theorem IsWhole.unsigned {ds : List Char} (h : IsWhole ds) : IsUnsigned ds := by
  have hparts := IsUnsigned.parts h .absent .absent
  rwa [List.append_nil, List.append_nil] at hparts

theorem IsUnsigned.head {cs : List Char} (h : IsUnsigned cs) :
    ∃ d r, cs = d :: r ∧ isDigit d = true := by
  obtain ⟨hwhole, _, _⟩ := h
  cases hwhole with
  | zero => exact ⟨'0', _, rfl, rfl⟩
  | digits _ hds => exact ⟨_, _, rfl, hds.2 _ List.mem_cons_self⟩

theorem IsNumeral.head_ne {cs : List Char} {x : Char} (h : IsNumeral cs)
    (hx : x ≠ '-' ∧ isDigit x = false) : cs.head? ≠ some x := by
  cases h with
  | positive h =>
      obtain ⟨d, r, rfl, hd⟩ := h.head
      rintro ⟨⟩
      exact absurd hd (by rw [hx.2]; exact Bool.false_ne_true)
  | negative _ =>
      rintro ⟨⟩
      exact hx.1 rfl

theorem Writes.starts (h : Writes form core) : Tokens.Starts core := by
  cases h with
  | null | yes | no | quoted _ | array _ _ _ | object _ _ _ _ =>
      exact Tokens.starts_cons (by decide)
  | numeral h =>
      cases h with
      | positive h =>
          obtain ⟨d, r, rfl, hd⟩ := h.head
          exact Tokens.starts_cons (Tokens.isDigit_starts hd)
      | negative _ => exact Tokens.starts_cons (by decide)

end Heads

end LineTopology.Proofs.Grammar
