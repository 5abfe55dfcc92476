import Xl2tpd.Config
import Xl2tpd.Lib.CString

/-!
# Ranges of addresses in the configuration

The end of a range may be given by its last components only. `set_range` puts the address together
in `ip_hi`, where it looks for the dots of the start from one octet behind the buffer back to its
front.
-/

namespace Xl2tpd.RangeText

set_option autoImplicit false

open CString (blank string)

/-! ## `set_range` -/

/-- The place behind the dot at which the loop stops, in a buffer that is given from its end
on. -/
def behindDots : Nat → Bytes → Option Nat
  | _, [] => none
  | count, octet :: rest =>
    if octet ≠ 46 then behindDots count rest
    else if count = 0 then some (rest.length + 1)
    else behindDots (count - 1) rest

/-- The text that the end is looked up by; `stack` is the memory from `ip_hi` on. -/
def endText (stack first last : Bytes) : Option Bytes :=
  if 3 ≤ last.count 46 then some last
  else if 16 ≤ first.length then none
  else
    let ipHi := first ++ 0 :: stack.drop (first.length + 1)
    match behindDots (last.count 46) (ipHi.take 17).reverse with
    | none => if last.length < 17 then none else some last
    | some e =>
      -- one past the buffer the distance to its end is a huge `size_t`
      if e = 17 then none
      else if last.length < 16 - e then some (string (ipHi.take e ++ last))
      else some last

def readRange (lookup : Bytes → Option Nat) (stack value : Bytes) : Option (Option (Nat × Nat)) :=
  match value.dropWhile (· != 45) with
  | [] => some (if value = [] then none else (lookup value).map fun addr => (addr, addr))
  | _ :: rest =>
    let first := (value.takeWhile (· != 45)).rdropWhile blank
    let last := rest.dropWhile blank
    if first = [] ∨ last = [] then some none
    else
      match lookup first with
      | none => some none
      | some start => (endText stack first last).map fun name =>
        (lookup name).bind fun stop => if stop < start then none else some (start, stop)

/-- `set_range`, with the answers of `gethostbyname`. -/
def setRangeText (lookup : Bytes → Option Nat) (stack word value : Bytes)
    (ranges : List IpRange) : Option (List IpRange × Bool) :=
  (readRange lookup stack value).map fun range =>
    setRange ranges (range.map fun pair => ⟨pair.1, pair.2, word.head? ≠ some 110⟩)

/-! ## Addresses as text -/

def dotted (parts : List UInt8) : Bytes :=
  [46].intercalate (parts.map fun part => decimal part.toNat)

def address (parts : List UInt8) : Nat :=
  parts.foldl (fun high part => high * 256 + part.toNat) 0

def ParsesQuads (lookup : Bytes → Option Nat) : Prop :=
  ∀ parts, parts.length = 4 → lookup (dotted parts) = some (address parts)

def number (digits : Bytes) : UInt8 :=
  UInt8.ofNat (digits.foldl (fun value digit => value * 10 + (digit.toNat - 48)) 0)

/-- A resolver that knows dotted quads, and has one answer to all other names. -/
def quads (other : Option Nat) (name : Bytes) : Option Nat :=
  if (name.splitOn 46).length = 4 then some (address ((name.splitOn 46).map number)) else other

theorem decimal_octet (part : UInt8) :
    (∀ octet ∈ decimal part.toNat, 47 < octet ∧ octet ≤ 57) ∧
      (0 < (decimal part.toNat).length ∧ (decimal part.toNat).length ≤ 3) ∧
      number (decimal part.toNat) = part := by
  have all : (List.range 256).all (fun value : Nat =>
      (decimal value).all (fun octet => 47 < octet && octet ≤ 57) &&
        (0 < (decimal value).length && (decimal value).length ≤ 3) &&
        (number (decimal value)).toNat == value) = true := by
    decide +kernel
  have here := List.all_eq_true.mp all part.toNat (List.mem_range.mpr part.toNat_lt)
  simp only [Bool.and_eq_true, List.all_eq_true, decide_eq_true_eq, beq_iff_eq] at here
  exact ⟨here.1.1, here.1.2, UInt8.toNat_inj.mp here.2⟩

theorem dotted_cons (part next : UInt8) (rest : List UInt8) :
    dotted (part :: next :: rest) = decimal part.toNat ++ 46 :: dotted (next :: rest) := by
  simp only [dotted, List.map_cons, List.intercalate_cons_cons, List.append_assoc,
    List.singleton_append]

theorem dotted_single (part : UInt8) : dotted [part] = decimal part.toNat := by
  simp [dotted, List.intercalate]

theorem dotted_append {front back : List UInt8} (some : front ≠ []) (more : back ≠ []) :
    dotted (front ++ back) = dotted front ++ 46 :: dotted back := by
  induction front with
  | nil => exact absurd rfl some
  | cons part rest ih =>
    cases rest with
    | nil =>
      obtain ⟨next, others, rfl⟩ := List.exists_cons_of_ne_nil more
      rw [dotted_single]
      exact dotted_cons part next others
    | cons next others =>
      have tail := ih (List.cons_ne_nil _ _)
      rw [List.cons_append] at tail
      rw [List.cons_append, List.cons_append, dotted_cons, tail, dotted_cons, List.append_assoc]
      rfl

theorem decimal_dots (part : UInt8) : (decimal part.toNat).count 46 = 0 := by
  rw [List.count_eq_zero]
  intro member
  exact absurd ((decimal_octet part).1 46 member).1 (by decide)

structure Plain (parts : List UInt8) (name : Bytes) : Prop where
  octets : ∀ octet ∈ name, 45 < octet ∧ octet ≤ 57
  dots : name.count 46 + 1 = parts.length
  long : 0 < name.length
  short : name.length + 1 ≤ 4 * parts.length

variable {parts : List UInt8}

theorem dotted_plain (some : parts ≠ []) : Plain parts (dotted parts) := by
  induction parts with
  | nil => exact absurd rfl some
  | cons part rest ih =>
    obtain ⟨digits, ⟨long, short⟩, _⟩ := decimal_octet part
    have octets : ∀ octet ∈ decimal part.toNat, 45 < octet ∧ octet ≤ 57 :=
      fun octet member =>
        ⟨Nat.lt_trans (by decide) (digits octet member).1, (digits octet member).2⟩
    cases rest with
    | nil =>
      rw [dotted_single]
      refine ⟨octets, ?_, long, ?_⟩
      · rw [decimal_dots]
        rfl
      · rw [List.length_singleton]
        omega
    | cons next others =>
      have tail := ih (List.cons_ne_nil _ _)
      rw [dotted_cons]
      refine ⟨?_, ?_, ?_, ?_⟩
      · intro octet member
        rcases List.mem_append.mp member with first | later
        · exact octets octet first
        · rcases List.mem_cons.mp later with rfl | last
          · decide
          · exact tail.octets octet last
      · rw [List.count_append, List.count_cons_self, decimal_dots, Nat.zero_add, tail.dots]
        rfl
      · rw [List.length_append]
        omega
      · have behind := tail.short
        simp only [List.length_append, List.length_cons] at behind ⊢
        omega

theorem splitOn_dotted (some : parts ≠ []) :
    (dotted parts).splitOn 46 = parts.map fun part => decimal part.toNat := by
  refine List.splitOn_intercalate 46 (fun digits member => ?_) (by simpa using some)
  obtain ⟨part, _, rfl⟩ := List.mem_map.mp member
  exact List.count_eq_zero.mp (decimal_dots part)

theorem string_dotted (some : parts ≠ []) :
    string (dotted parts) = dotted parts :=
  CString.string_self fun zero => absurd ((dotted_plain some).octets 0 zero).1 (by decide)

theorem quads_parses (other : Option Nat) : ParsesQuads (quads other) := by
  intro parts four
  have some : parts ≠ [] := List.ne_nil_of_length_eq_add_one four
  unfold quads
  rw [splitOn_dotted some, List.length_map, if_pos four, List.map_map]
  congr 2
  exact List.map_id'' (fun part => (decimal_octet part).2.2) parts

theorem quads_other (other : Option Nat) (some : parts ≠ []) (size : parts.length ≠ 4) :
    quads other (dotted parts) = other := by
  unfold quads
  rw [splitOn_dotted some, List.length_map, if_neg size]

/-! ## The end of a range -/

theorem behindDots_append (octets rest : Bytes) (more : Nat) :
    behindDots (octets.count 46 + more) (octets ++ rest) = behindDots more rest := by
  induction octets with
  | nil => rw [List.count_nil, Nat.zero_add, List.nil_append]
  | cons octet octets ih =>
    rw [List.cons_append, behindDots]
    by_cases dot : octet = 46
    · subst dot
      rw [if_neg (by decide), if_neg (by rw [List.count_cons_self]; omega), List.count_cons_self,
        Nat.add_right_comm, Nat.add_sub_cancel]
      exact ih
    · rw [if_pos dot, List.count_cons_of_ne dot]
      exact ih

/-- What is left behind the start in the buffer and in the octet behind it. -/
def staleOctets (stack first : Bytes) : Bytes :=
  (stack.drop (first.length + 1)).take (16 - first.length)

theorem ipHi_reverse {stack first : Bytes} (small : first.length < 16) :
    ((first ++ 0 :: stack.drop (first.length + 1)).take 17).reverse =
      (staleOctets stack first).reverse ++ 0 :: first.reverse := by
  rw [List.take_append, List.take_of_length_le (by omega),
    show 17 - first.length = 16 - first.length + 1 by omega, List.take_succ_cons]
  simp only [staleOctets, List.reverse_append, List.reverse_cons, List.append_assoc,
    List.cons_append, List.nil_append]

/-- The dots of the end, and those behind the start, are counted off from the start's last one. -/
theorem endText_joined {stack head tail last : Bytes} (small : (head ++ 46 :: tail).length < 16)
    (few : last.count 46 < 3)
    (dots : last.count 46 = (staleOctets stack (head ++ 46 :: tail)).count 46 + tail.count 46) :
    endText stack (head ++ 46 :: tail) last =
      some (if head.length + 1 + last.length < 16 then string (head ++ 46 :: last) else last) := by
  have count : last.count 46 = ((staleOctets stack (head ++ 46 :: tail)).reverse ++
      0 :: tail.reverse).count 46 + 0 := by
    simpa [List.count_cons] using dots
  have halves : (staleOctets stack (head ++ 46 :: tail)).reverse ++
      0 :: (head ++ 46 :: tail).reverse =
      ((staleOctets stack (head ++ 46 :: tail)).reverse ++ 0 :: tail.reverse) ++
        46 :: head.reverse := by
    simp
  have kept : (head ++ 46 :: tail ++ 0 :: stack.drop ((head ++ 46 :: tail).length + 1)).take
      (head.length + 1) ++ last = head ++ 46 :: last := by
    simp [List.take_append, List.take_of_length_le]
  simp only [List.length_append, List.length_cons] at small
  unfold endText
  simp only
  rw [if_neg (by omega), if_neg (by simp; omega), ipHi_reverse (by simp; omega), halves, count,
    behindDots_append]
  simp only [behindDots, ne_eq, not_true_eq_false, if_false, if_true, List.length_reverse]
  rw [if_neg (by omega), kept]
  split <;> split <;> first | rfl | omega

/-! ## The whole range -/

def rangeText (start given : List UInt8) (before after : Bytes) : Bytes :=
  dotted start ++ before ++ 45 :: (after ++ dotted given)

/-- What `set_range` is to make of the range. -/
def meant (word : Bytes) (start given : List UInt8) (ranges : List IpRange) :
    List IpRange × Bool :=
  let stop := address (start.take (4 - given.length) ++ given)
  setRange ranges (if stop < address start then none
    else some ⟨address start, stop, word.head? ≠ some 110⟩)

theorem dropWhile_plain (some : parts ≠ []) :
    (dotted parts).dropWhile blank = dotted parts ∧
      (dotted parts).rdropWhile blank = dotted parts := by
  have solid : ∀ octet ∈ dotted parts, ¬ blank octet = true := by
    intro octet member
    obtain ⟨above, below⟩ := (dotted_plain some).octets octet member
    simp only [blank, Bool.or_eq_true, decide_eq_true_eq, not_or]
    exact ⟨fun low => absurd (UInt8.lt_trans above low) (by decide),
      fun high => absurd (UInt8.le_trans high below) (by decide)⟩
  refine ⟨?_, List.rdropWhile_eq_self_iff.mpr fun nonempty => solid _ (List.getLast_mem nonempty)⟩
  cases shown : dotted parts with
  | nil => rfl
  | cons octet rest =>
    exact List.dropWhile_cons_of_neg (solid octet (shown ▸ List.mem_cons_self))

section Ranges

variable {start given : List UInt8} {before after stack word : Bytes}
  {lookup : Bytes → Option Nat} (quad : start.length = 4) (some : given ≠ [])

include quad some

/-- The first components of the start are kept: one more for each dot behind it. -/
theorem endText_quad {n : Nat} (few : given.length < 4) (kept : 0 < n ∧ n < 4)
    (dots : given.length + n = (staleOctets stack (dotted start)).count 46 + 4) :
    endText stack (dotted start) (dotted given) = Option.some (dotted
      (if (dotted (start.take n ++ given)).length < 16 then start.take n ++ given
        else given)) := by
  have front : start.take n ≠ [] := by
    rw [← List.length_pos_iff, List.length_take]
    omega
  have back : start.drop n ≠ [] := by
    rw [← List.length_pos_iff, List.length_drop]
    omega
  have whole : dotted start = dotted (start.take n) ++ 46 :: dotted (start.drop n) := by
    rw [← dotted_append front back, List.take_append_drop]
  have short := (dotted_plain (List.ne_nil_of_length_eq_add_one quad)).short
  have dotsGiven := (dotted_plain some).dots
  have dotsBack := (dotted_plain back).dots
  rw [List.length_drop] at dotsBack
  have joined := dotted_append front some
  rw [whole] at dots short ⊢
  rw [endText_joined (by omega) (by omega) (by omega), ← joined,
    string_dotted (List.append_ne_nil_of_left_ne_nil front _), joined, List.length_append,
    List.length_cons, ← joined, Nat.add_right_comm, Nat.add_assoc _ _ 1]
  split <;> rfl

def dotBehind : Bytes := List.replicate 16 0 ++ [46]

omit quad some in
theorem staleOctets_dotBehind {first : Bytes} (small : first.length < 16) :
    staleOctets dotBehind first = List.replicate (15 - first.length) 0 ++ [46] := by
  unfold staleOctets dotBehind
  rw [List.drop_append_of_le_length (by rw [List.length_replicate]; omega), List.drop_replicate,
    List.take_of_length_le (by simp; omega), Nat.sub_add_eq, Nat.sub_right_comm]

/-- One component then leads out of the buffer, two or three lead to a text that is no quad. -/
theorem endText_dotBehind (few : given.length < 4) {name : Bytes}
    (made : endText dotBehind (dotted start) (dotted given) = Option.some name) :
    ∃ parts : List UInt8, parts ≠ [] ∧ parts.length ≠ 4 ∧ name = dotted parts := by
  have short := (dotted_plain (List.ne_nil_of_length_eq_add_one quad)).short
  have small : (dotted start).length < 16 := by omega
  have stale := staleOctets_dotBehind small
  have dots := (dotted_plain some).dots
  have positive := List.length_pos_iff.mpr some
  by_cases one : given.length = 1
  · have none : (dotted given).count 46 = 0 := by omega
    unfold endText at made
    simp only at made
    rw [if_neg (by omega), if_neg (by omega), ipHi_reverse small, stale, none,
      List.reverse_append, List.reverse_singleton, List.singleton_append, List.cons_append,
      behindDots, if_neg (by decide), if_pos rfl] at made
    simp only [List.length_append, List.length_reverse, List.length_replicate,
      List.length_cons] at made
    rw [if_pos (by omega)] at made
    cases made
  · have counted : (staleOctets dotBehind (dotted start)).count 46 = 1 := by
      rw [stale, List.count_append, List.count_replicate]
      rfl
    rw [endText_quad quad some (n := 5 - given.length) few (by omega) (by omega)] at made
    cases made
    refine ⟨_, ?_, ?_, rfl⟩ <;> split
    · exact List.append_ne_nil_of_right_ne_nil _ some
    · exact some
    · rw [List.length_append, List.length_take]
      omega
    · omega

variable (blanks : ∀ octet ∈ before ++ after, blank octet = true)

include blanks

theorem readRange_parts (known : lookup (dotted start) = Option.some (address start)) :
    readRange lookup stack (rangeText start given before after) =
      (endText stack (dotted start) (dotted given)).map fun name =>
        (lookup name).bind fun stop =>
          if stop < address start then none else Option.some (address start, stop) := by
  have nonempty := List.ne_nil_of_length_eq_add_one quad
  have dash : ∀ octet ∈ dotted start ++ before, (octet != 45) = true := by
    intro octet member
    rw [bne_iff_ne]
    rintro rfl
    rcases List.mem_append.mp member with digit | space
    · exact absurd ((dotted_plain nonempty).octets 45 digit).1 (by decide)
    · exact absurd (blanks 45 (List.mem_append_left _ space)) (by decide)
  have rest : (rangeText start given before after).dropWhile (· != 45) =
      45 :: (after ++ dotted given) := by
    unfold rangeText
    rw [List.dropWhile_append_of_pos dash]
    rfl
  have first : ((rangeText start given before after).takeWhile (· != 45)).rdropWhile blank =
      dotted start := by
    unfold rangeText
    rw [List.takeWhile_append_of_pos dash, List.takeWhile_cons_of_neg (by decide),
      List.append_nil, List.rdropWhile, List.reverse_append, List.dropWhile_append_of_pos]
    · exact (dropWhile_plain nonempty).2
    · exact fun octet member => blanks octet (List.mem_append_left _ (List.mem_reverse.mp member))
  have last : (after ++ dotted given).dropWhile blank = dotted given := by
    rw [List.dropWhile_append_of_pos fun octet member =>
      blanks octet (List.mem_append_right _ member)]
    exact (dropWhile_plain some).1
  have filled : ¬ (dotted start = [] ∨ dotted given = []) := by
    rw [← List.length_eq_zero_iff, ← List.length_eq_zero_iff]
    have long := (dotted_plain nonempty).long
    have longer := (dotted_plain some).long
    omega
  unfold readRange
  rw [rest]
  simp only
  rw [first, last, if_neg filled, known]

theorem setRangeText_right (few : given.length ≤ 4) (parses : ParsesQuads lookup)
    (ranges : List IpRange) (clean : given.length = 4 ∨ 46 ∉ staleOctets stack (dotted start)) :
    setRangeText lookup stack word (rangeText start given before after) ranges =
      Option.some (meant word start given ranges) := by
  have positive := List.length_pos_iff.mpr some
  have size : (start.take (4 - given.length) ++ given).length = 4 := by
    rw [List.length_append, List.length_take]
    omega
  have name : endText stack (dotted start) (dotted given) =
      Option.some (dotted (start.take (4 - given.length) ++ given)) := by
    by_cases four : given.length = 4
    · have dots := (dotted_plain some).dots
      unfold endText
      rw [if_pos (by omega), four, Nat.sub_self, List.take_zero, List.nil_append]
    · have none := List.count_eq_zero.mpr (clean.resolve_left four)
      have fits := (dotted_plain (List.ne_nil_of_length_eq_add_one size)).short
      rw [endText_quad quad some (n := 4 - given.length) (by omega) (by omega) (by omega),
        if_pos (by omega)]
  unfold setRangeText
  rw [readRange_parts quad some blanks (parses start quad), name, Option.map_some, parses _ size,
    Option.bind_some, Option.map_some]
  unfold meant
  simp only
  split <;> rfl

theorem setRangeText_wrong (few : given.length < 4) (ranges : List IpRange) :
    ∃ lookup stack, ParsesQuads lookup ∧ stack.length = 17 ∧
      setRangeText lookup stack word (rangeText start given before after) ranges ≠
        Option.some (meant word start given ranges) := by
  by_contra right
  have refused : setRangeText (quads none) dotBehind word _ ranges = _ :=
    not_not.mp fun wrong => right ⟨_, _, quads_parses none, rfl, wrong⟩
  have taken : setRangeText (quads (address start)) dotBehind word _ ranges = _ :=
    not_not.mp fun wrong => right ⟨_, _, quads_parses (address start), rfl, wrong⟩
  unfold setRangeText at refused taken
  rw [readRange_parts quad some blanks (quads_parses _ start quad)] at refused taken
  cases made : endText dotBehind (dotted start) (dotted given) with
  | none =>
    rw [made] at refused
    cases refused
  | some name =>
    obtain ⟨parts, nonempty, size, rfl⟩ := endText_dotBehind quad some few made
    rw [made, Option.map_some, quads_other _ nonempty size] at refused taken
    have same := refused.trans taken.symm
    simp [setRange] at same

end Ranges

/-- A range is what it means whatever the stack holds, if and only if its end has four components,
or no dot stands behind the start in the buffer. -/
theorem range_shorthand_iff (ranges : List IpRange) (word before after : Bytes)
    (start given : List UInt8) (quad : start.length = 4) (some : given ≠ [])
    (few : given.length ≤ 4) (blanks : ∀ octet ∈ before ++ after, blank octet = true) :
    ((∀ lookup stack, ParsesQuads lookup → stack.length = 17 →
        setRangeText lookup stack word (rangeText start given before after) ranges =
          Option.some (meant word start given ranges)) ↔ given.length = 4) ∧
      ∀ lookup stack, ParsesQuads lookup → 46 ∉ staleOctets stack (dotted start) →
        setRangeText lookup stack word (rangeText start given before after) ranges =
          Option.some (meant word start given ranges) := by
  refine ⟨⟨fun right => ?_, fun four lookup stack parses _ => ?_⟩,
    fun lookup stack parses clean => ?_⟩
  · by_contra less
    obtain ⟨lookup, stack, parses, size, wrong⟩ :=
      @setRangeText_wrong _ _ before after word quad some blanks (by omega) ranges
    exact wrong (right lookup stack parses size)
  · exact setRangeText_right quad some blanks few parses ranges (.inl four)
  · exact setRangeText_right quad some blanks few parses ranges (.inr clean)

theorem range_shorthand_sample :
    setRangeText (quads none) (List.replicate 17 0) [] (rangeText [10, 0, 0, 1] [5] [32] [32]) [] =
      some ([⟨167772161, 167772165, true⟩], true) :=
  ((range_shorthand_iff [] [] [32] [32] [10, 0, 0, 1] [5] rfl (by decide) (by decide)
    (by decide +kernel)).2 (quads none) (List.replicate 17 0) (quads_parses none)
    (by decide +kernel)).trans (by decide +kernel)

/-- With a dot left in the buffer `10.0.0.1 - 5` is the range of one address. -/
theorem range_shorthand_fails :
    ParsesQuads (quads none) ∧
      setRangeText (quads none) (List.replicate 12 0 ++ 46 :: List.replicate 4 0) []
          (rangeText [10, 0, 0, 1] [5] [32] [32]) [] = some ([⟨167772161, 167772161, true⟩], true) ∧
      meant [] [10, 0, 0, 1] [5] [] = ([⟨167772161, 167772165, true⟩], true) :=
  ⟨quads_parses none, by decide +kernel, by decide +kernel⟩

end Xl2tpd.RangeText
