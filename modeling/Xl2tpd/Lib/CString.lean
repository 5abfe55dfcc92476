import Mathlib.Data.List.DropRight
import Mathlib.Data.List.TakeWhile

/-!
# C strings

A string is what stands in memory before the first zero. `strtok` cuts a string into the
non-empty pieces between its delimiters; blanks are trimmed off both ends of a piece.
-/

namespace CString

set_option autoImplicit false

def string (memory : List UInt8) : List UInt8 := memory.takeWhile (· != 0)

/-- `strtok`: the next token and what is left behind its delimiter. -/
def strtok (delim : UInt8) (text : List UInt8) : Option (List UInt8 × List UInt8) :=
  match text.dropWhile (· == delim) with
  | [] => none
  | first :: rest =>
      some (first :: rest.takeWhile (· != delim), (rest.dropWhile (· != delim)).tail)

def tokens (delim : UInt8) (text : List UInt8) : List (List UInt8) :=
  (text.splitOn delim).filter (· != [])

/-- The blanks of a `char` that is signed: the octets from 128 on count as negative. -/
def blank (octet : UInt8) : Bool := octet < 33 || 128 ≤ octet

def trim (text : List UInt8) : List UInt8 := (text.dropWhile blank).rdropWhile blank

/-- A pointer moves on over the blanks of a string. -/
def skipBlanks (memory : List UInt8) : List UInt8 :=
  memory.dropWhile fun octet => octet != 0 && blank octet

/-- A pointer moves behind the octet that ends a field, a zero or not, and over blanks. -/
def behindField (inside : UInt8 → Bool) (memory : List UInt8) : List UInt8 :=
  skipBlanks (memory.drop ((memory.takeWhile inside).length + 1))

section String

variable {memory text rest : List UInt8}

theorem string_append (plain : 0 ∉ text) (memory : List UInt8) :
    string (text ++ memory) = text ++ string memory := by
  unfold string
  refine List.takeWhile_append_of_pos ?_
  intro octet member
  have differs : octet ≠ 0 := fun zero => plain (zero ▸ member)
  simpa using differs

theorem string_self (plain : 0 ∉ text) : string text = text := by
  have whole := string_append plain []
  simpa [string] using whole

theorem string_terminated (plain : 0 ∉ text) : string (text ++ 0 :: rest) = text := by
  rw [string_append plain]
  simp [string]

theorem string_append_of_mem (ended : 0 ∈ text) (memory : List UInt8) :
    string (text ++ memory) = string text := by
  induction text with
  | nil => cases ended
  | cons first rest ih =>
    unfold string at ih ⊢
    rw [List.cons_append, List.takeWhile_cons, List.takeWhile_cons]
    split
    next goes =>
      have later : 0 ∈ rest := by
        rcases List.mem_cons.mp ended with zero | later
        · simp [← zero] at goes
        · exact later
      rw [ih later]
    next => rfl

theorem string_split (ended : 0 ∈ memory) : ∃ rest, memory = string memory ++ 0 :: rest := by
  induction memory with
  | nil => cases ended
  | cons first rest ih =>
    unfold string at ih ⊢
    rw [List.takeWhile_cons]
    split
    next goes =>
      have later : 0 ∈ rest := by
        rcases List.mem_cons.mp ended with zero | later
        · simp [← zero] at goes
        · exact later
      obtain ⟨behind, split⟩ := ih later
      refine ⟨behind, ?_⟩
      rw [List.cons_append, ← split]
    next stops =>
      have zero : first = 0 := by simpa using stops
      exact ⟨rest, by rw [zero]; rfl⟩

theorem string_length_le (memory : List UInt8) : (string memory).length ≤ memory.length :=
  (List.takeWhile_prefix _).length_le

theorem string_nil_iff : string memory = [] ↔ ∀ octet ∈ memory.take 1, octet = 0 := by
  cases memory with
  | nil => simp [string]
  | cons first rest => simp [string, List.takeWhile_cons]

theorem string_append_iff : string (text ++ rest) = string text ↔ 0 ∈ text ∨ string rest = [] := by
  by_cases ended : 0 ∈ text
  · exact iff_of_true (string_append_of_mem ended rest) (.inl ended)
  · rw [string_append ended, string_self ended, List.append_right_eq_self, or_iff_right ended]

theorem zero_not_mem_string (memory : List UInt8) : 0 ∉ string memory := by
  intro member
  simpa using List.mem_takeWhile_imp member

end String

section Fields

variable {inside : UInt8 → Bool} {text behind : List UInt8}

theorem skipBlanks_append (plain : 0 ∉ text) (behind : List UInt8) :
    skipBlanks (text ++ 0 :: behind) = text.dropWhile blank ++ 0 :: behind := by
  induction text with
  | nil => rfl
  | cons first rest ih =>
    have some : (first != 0) = true := bne_iff_ne.mpr fun zero => plain (zero ▸ List.mem_cons_self)
    have later := ih fun member => plain (List.mem_cons_of_mem first member)
    unfold skipBlanks at later ⊢
    rw [List.cons_append, List.dropWhile_cons, List.dropWhile_cons, some, Bool.true_and]
    split
    · exact later
    · rfl

theorem takeWhile_terminated (ends : inside 0 = false) (text behind : List UInt8) :
    (text ++ 0 :: behind).takeWhile inside = text.takeWhile inside := by
  induction text with
  | nil => exact List.takeWhile_cons_of_neg (by simp [ends])
  | cons first rest ih => rw [List.cons_append, List.takeWhile_cons, List.takeWhile_cons, ih]

theorem behindField_more (ends : inside 0 = false) (plain : 0 ∉ text)
    (more : text.dropWhile inside ≠ []) (behind : List UInt8) :
    behindField inside (text ++ 0 :: behind) =
      (text.dropWhile inside).tail.dropWhile blank ++ 0 :: behind := by
  obtain ⟨stop, rest, split⟩ := List.exists_cons_of_ne_nil more
  have whole := List.takeWhile_append_dropWhile (p := inside) (l := text)
  have free : 0 ∉ rest := by
    intro member
    refine plain ((List.dropWhile_sublist inside).mem ?_)
    rw [split]
    exact List.mem_cons_of_mem stop member
  unfold behindField
  rw [takeWhile_terminated ends, split, List.tail_cons, ← skipBlanks_append free]
  congr 1
  rw [split] at whole
  nth_rewrite 2 [← whole]
  rw [List.append_assoc, List.drop_length_add_append]
  rfl

theorem behindField_over (ends : inside 0 = false) (whole : text.dropWhile inside = [])
    (behind : List UInt8) : behindField inside (text ++ 0 :: behind) = skipBlanks behind := by
  have field : text.takeWhile inside = text := by
    have split := List.takeWhile_append_dropWhile (p := inside) (l := text)
    rwa [whole, List.append_nil] at split
  unfold behindField
  rw [takeWhile_terminated ends, field, List.drop_length_add_append]
  rfl

end Fields

section Tokens

variable {delim : UInt8} {text token rest : List UInt8}

theorem tokens_nil (delim : UInt8) : tokens delim [] = [] := rfl

theorem tokens_skip (delim : UInt8) (text : List UInt8) :
    tokens delim (delim :: text) = tokens delim text := by
  unfold tokens List.splitOn
  rw [List.splitOnP_cons_eq_if_modifyHead, if_pos (beq_self_eq_true delim)]
  rfl

theorem tokens_dropWhile (delim : UInt8) (text : List UInt8) :
    tokens delim (text.dropWhile (· == delim)) = tokens delim text := by
  induction text with
  | nil => rfl
  | cons first rest ih =>
    rw [List.dropWhile_cons]
    split
    next same =>
      obtain rfl := eq_of_beq same
      rw [ih, tokens_skip]
    next => rfl

theorem tokens_append (free : delim ∉ token) (some : token ≠ []) (rest : List UInt8) :
    tokens delim (token ++ delim :: rest) = token :: tokens delim rest := by
  have apart : ∀ octet ∈ token, (octet == delim) = false := by
    intro octet member
    exact beq_eq_false_iff_ne.mpr fun same => free (same ▸ member)
  unfold tokens List.splitOn
  rw [List.splitOnP_append_cons_of_forall_mem apart delim (beq_self_eq_true delim),
    List.filter_cons, if_pos (by simpa using some)]

theorem tokens_single (free : delim ∉ token) (some : token ≠ []) :
    tokens delim token = [token] := by
  have apart : ∀ octet ∈ token, (octet == delim) = false := by
    intro octet member
    exact beq_eq_false_iff_ne.mpr fun same => free (same ▸ member)
  unfold tokens List.splitOn
  rw [List.splitOnP_eq_singleton apart, List.filter_cons, if_pos (by simpa using some)]
  rfl

theorem strtok_some (cut : strtok delim text = some (token, rest)) :
    tokens delim text = token :: tokens delim rest := by
  unfold strtok at cut
  rw [← tokens_dropWhile]
  cases ahead : text.dropWhile (· == delim) with
  | nil =>
    rw [ahead] at cut
    cases cut
  | cons first others =>
    rw [ahead] at cut
    cases cut
    have nonempty : text.dropWhile (· == delim) ≠ [] := by simp [ahead]
    have start : ¬ (first == delim) = true := by
      have head := List.head_dropWhile_not (· == delim) nonempty
      simpa [ahead] using head
    have free : delim ∉ first :: others.takeWhile (· != delim) := by
      intro member
      rcases List.mem_cons.mp member with rfl | member
      · exact start (beq_self_eq_true _)
      · simpa using List.mem_takeWhile_imp member
    have split : first :: others =
        (first :: others.takeWhile (· != delim)) ++ others.dropWhile (· != delim) := by
      rw [List.cons_append, List.takeWhile_append_dropWhile]
    cases behind : others.dropWhile (· != delim) with
    | nil =>
      rw [split, behind, List.append_nil, tokens_single free (List.cons_ne_nil _ _),
        List.tail_nil, tokens_nil]
    | cons stop tail =>
      have nonempty : others.dropWhile (· != delim) ≠ [] := by simp [behind]
      have stops : stop = delim := by
        have head := List.head_dropWhile_not (· != delim) nonempty
        simpa [behind] using head
      rw [split, behind, stops, tokens_append free (List.cons_ne_nil _ _), List.tail_cons]

theorem strtok_none (cut : strtok delim text = none) : tokens delim text = [] := by
  unfold strtok at cut
  rw [← tokens_dropWhile]
  cases ahead : text.dropWhile (· == delim) with
  | nil => exact tokens_nil delim
  | cons first others =>
    rw [ahead] at cut
    cases cut

end Tokens

end CString
