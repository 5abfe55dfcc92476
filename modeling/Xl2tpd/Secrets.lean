import Xl2tpd.Lib.CString
import Xl2tpd.Wire

/-!
# The secrets file

`get_secret` reads the lines of the file into one buffer and cuts each of them up in place.
Whatever ends a field is overwritten and stepped over, be it the zero that ends the line; the
second field also ends at an exclamation mark. So a line may go on with its comment, or with what
an earlier line has left.
-/

namespace Xl2tpd

set_option autoImplicit false

open CString

/-! ## `get_secret` -/

structure Credential where
  us : Bytes
  them : Bytes
  secret : Bytes
  deriving DecidableEq, Repr

def bufSize : Nat := 100

/-- What the calls of `fgets` read, the octets of the current one first. -/
def fgetsLines (read : Bytes) : Bytes → List Bytes
  | [] => if read = [] then [] else [read]
  | octet :: rest =>
      if octet = 10 ∨ read.length + 2 = bufSize then (read ++ [octet]) :: fgetsLines [] rest
      else fgetsLines (read ++ [octet]) rest

/-- The buffer with a line and its zero; behind them it stays as it was. -/
def storeLine (line buf : Bytes) : Bytes := line ++ 0 :: buf.drop (line.length + 1)

def comment (octet : UInt8) : Bool := octet == 35 || octet == 59

/-- Every sign that starts a comment becomes a zero, not only the first one. -/
def stripComments (buf : Bytes) : Bytes :=
  (string buf).map (fun octet => if comment octet then 0 else octet) ++
    buf.drop (string buf).length

/-- The blanks at the end of the string become zeros. -/
def stripBlanks (buf : Bytes) : Bytes :=
  let text := (string buf).rdropWhile blank
  text ++ List.replicate ((string buf).length - text.length) 0 ++ buf.drop (string buf).length

def inFirst (octet : UInt8) : Bool := !blank octet

/-- The second field is scanned with another bound than the first. -/
def inSecond (octet : UInt8) : Bool := !blank octet && octet != 33

/-- The fields at `u`, `t` and `s`, and the buffer with the zeros behind the first two. -/
def cutLine (buf : Bytes) : Option Credential × Bytes :=
  let u := skipBlanks buf
  let us := u.takeWhile inFirst
  let t := behindField inFirst u
  let them := t.takeWhile inSecond
  let s := behindField inSecond t
  let first := buf.set (buf.length - u.length + us.length) 0
  let second := first.set (buf.length - t.length + them.length) 0
  if string buf = [] then (none, buf)
  else if string u = [] then (none, buf)
  else if string t = [] then (none, first)
  else if string s = [] then (none, second)
  else (some ⟨us, them, string s⟩, second)

def readLine (buf : Bytes) : Option Credential × Bytes := cutLine (stripBlanks (stripComments buf))

def lower (octet : UInt8) : UInt8 := if 65 ≤ octet && octet ≤ 90 then octet + 32 else octet

def sameText (text other : Bytes) : Bool := (string text).map lower == (string other).map lower

def matchesName (name field : Bytes) : Bool := sameText field name || sameText field [42]

def Credential.fits (us them : Bytes) (line : Credential) : Bool :=
  matchesName us line.us && matchesName them line.them

def getSecretLoop (us them : Bytes) (size : Nat) : List Bytes → Bytes → Option Bytes
  | [], _ => none
  | line :: rest, buf =>
      match readLine (storeLine line buf) with
      | (none, buf) => getSecretLoop us them size rest buf
      | (some found, buf) =>
          if found.fits us them then some (found.secret.take size)
          else getSecretLoop us them size rest buf

/-- `get_secret` with the contents of the file, if it can be opened; `buf` is not initialised. -/
def getSecret (authfile : Option Bytes) (buf us them : Bytes) (size : Nat) : Option Bytes :=
  authfile.bind fun file => getSecretLoop us them size (fgetsLines [] file) buf

/-! ## What the file says -/

def prepend (front : Bytes) : List Bytes → List Bytes
  | [] => if front = [] then [] else [front]
  | line :: rest => (front ++ line) :: rest

def lines : Bytes → List Bytes
  | [] => []
  | octet :: rest => if octet = 10 then [octet] :: lines rest else prepend [octet] (lines rest)

def uncommented (line : Bytes) : Bytes := (string line).takeWhile (!comment ·)

/-- A line without its comment and the blanks around it. -/
def bare (line : Bytes) : Bytes := ((uncommented line).rdropWhile blank).dropWhile blank

/-- What is before the first blanks, what is between them and the next ones, and the rest. -/
def fields (text : Bytes) : Credential :=
  let rest := (text.dropWhile (!blank ·)).dropWhile blank
  { us := text.takeWhile (!blank ·)
    them := rest.takeWhile (!blank ·)
    secret := (rest.dropWhile (!blank ·)).dropWhile blank }

def credential (line : Bytes) : Option Credential :=
  if (fields (bare line)).secret = [] then none else some (fields (bare line))

def lookup (us them : Bytes) (lines : List Bytes) : Option Bytes :=
  ((lines.filterMap credential).find? (Credential.fits us them)).map Credential.secret

/-- With a secret: no exclamation mark in the second field. Without: a blank behind the text, or one
exclamation mark at the very end. -/
def tidy (line : Bytes) : Bool :=
  if (fields (bare line)).secret ≠ [] then 33 ∉ (fields (bare line)).them
  else if 33 ∈ (fields (bare line)).them then (fields (bare line)).them.dropWhile (· != 33) = [33]
  else bare line = [] || (uncommented line).rdropWhile blank ≠ uncommented line

/-- The lines up to the first one whose names are looked for. -/
def examined (us them : Bytes) : List Bytes → List Bytes
  | [] => []
  | line :: rest =>
      line :: if (credential line).any (Credential.fits us them) then [] else examined us them rest

/-- The line is tidy, or one of its names is read as it stands and not looked for. -/
def harmless (us them line : Bytes) : Bool :=
  tidy line || !matchesName us (fields (bare line)).us ||
    ((fields (bare line)).them ≠ [] && 33 ∉ (fields (bare line)).them &&
      !matchesName them (fields (bare line)).them)

/-! ## The lines -/

theorem prepend_nil (list : List Bytes) : prepend [] list = list := by
  cases list <;> rfl

theorem prepend_prepend {front : Bytes} {octet : UInt8} (list : List Bytes) :
    prepend front (prepend [octet] list) = prepend (front ++ [octet]) list := by
  cases list with
  | nil => simp [prepend]
  | cons line rest => simp [prepend]

theorem lines_length {file line : Bytes} (member : line ∈ lines file) :
    line.length ≤ (line.takeWhile (· != 10)).length + 1 := by
  induction file generalizing line with
  | nil => cases member
  | cons octet rest ih =>
    unfold lines at member
    split at member
    next newline =>
      rcases List.mem_cons.mp member with rfl | later
      · simp
      · exact ih later
    next other =>
      have goes : (octet != 10) = true := bne_iff_ne.mpr other
      cases known : lines rest with
      | nil =>
        rw [known] at member
        rw [List.mem_singleton.mp member]
        simp
      | cons first others =>
        rw [known] at member ih
        rcases List.mem_cons.mp member with rfl | later
        · have shorter := ih List.mem_cons_self
          rw [List.singleton_append, List.takeWhile_cons, if_pos goes, List.length_cons,
            List.length_cons]
          omega
        · exact ih (List.mem_cons_of_mem first later)

theorem fgetsLines_short {file read : Bytes} (plain : 10 ∉ read)
    (short : ∀ line ∈ prepend read (lines file), (line.takeWhile (· != 10)).length < 99) :
    fgetsLines read file = prepend read (lines file) := by
  have inside {text : Bytes} (free : 10 ∉ text) : ∀ octet ∈ text, (octet != 10) = true :=
    fun octet member => bne_iff_ne.mpr fun same => free (same ▸ member)
  induction file generalizing read with
  | nil => rfl
  | cons octet rest ih =>
    unfold fgetsLines
    unfold lines at short ⊢
    by_cases newline : octet = 10
    · rw [if_pos newline] at short ⊢
      rw [if_pos (.inl newline), ih List.not_mem_nil, prepend_nil]
      · rfl
      · intro line member
        rw [prepend_nil] at member
        exact short line (List.mem_cons_of_mem _ member)
    · rw [if_neg newline, prepend_prepend] at short ⊢
      have free : 10 ∉ read ++ [octet] := by
        rw [List.mem_append, List.mem_singleton]
        exact fun member => member.elim plain fun same => newline same.symm
      have room : ¬ read.length + 2 = bufSize := by
        intro full
        have front : ∃ line ∈ prepend (read ++ [octet]) (lines rest), read ++ [octet] <+: line := by
          cases lines rest with
          | nil => exact ⟨_, by simp [prepend], List.prefix_rfl⟩
          | cons line others => exact ⟨_, List.mem_cons_self, List.prefix_append _ _⟩
        obtain ⟨line, member, tail, rfl⟩ := front
        have bound := short _ member
        rw [List.takeWhile_append_of_pos (inside free), List.length_append, List.length_append,
          List.length_singleton] at bound
        have size : bufSize = 100 := rfl
        omega
      rw [if_neg (not_or.mpr ⟨newline, room⟩), ih free short]

/-! ## One line -/

section Line

variable {line text behind : Bytes} {rest : Bytes}

theorem zero_not_mem_uncommented (line : Bytes) : 0 ∉ uncommented line :=
  fun member => zero_not_mem_string line ((List.takeWhile_sublist _).mem member)

theorem strip_uncommented (line : Bytes) :
    (uncommented line).map (fun octet => if comment octet then 0 else octet) =
      uncommented line := by
  refine (List.map_congr_left fun octet member => ?_).trans (List.map_id _)
  have plain : comment octet = false := by simpa using List.mem_takeWhile_imp member
  rw [plain]
  rfl

theorem stripComments_storeLine (line buf : Bytes) :
    ∃ behind, stripComments (storeLine line buf) = uncommented line ++ 0 :: behind := by
  have same : string (storeLine line buf) = string line := string_append_iff.mpr (.inr rfl)
  have ended : 0 ∈ storeLine line buf := List.mem_append_right _ List.mem_cons_self
  obtain ⟨rest, split⟩ := string_split ended
  rw [same] at split
  have cut : string line = uncommented line ++ (string line).dropWhile (!comment ·) :=
    List.takeWhile_append_dropWhile.symm
  unfold stripComments
  rw [same, split, List.drop_left, cut, List.map_append, strip_uncommented]
  cases remark : (string line).dropWhile (!comment ·) with
  | nil => exact ⟨rest, by rw [List.map_nil, List.append_nil]⟩
  | cons first others =>
    have some : (string line).dropWhile (!comment ·) ≠ [] := remark ▸ List.cons_ne_nil _ _
    have starts : comment first = true := by
      have head := List.head_dropWhile_not (!comment ·) some
      simpa [remark] using head
    refine ⟨others.map (fun octet => if comment octet then 0 else octet) ++ 0 :: rest, ?_⟩
    rw [List.map_cons, if_pos starts, List.append_assoc, List.cons_append]

theorem stripComments_uncommented (line behind : Bytes) :
    stripComments (uncommented line ++ 0 :: behind) = uncommented line ++ 0 :: behind := by
  unfold stripComments
  rw [string_terminated (zero_not_mem_uncommented line), strip_uncommented, List.drop_left]

def strippedBlanks (line : Bytes) : Bytes :=
  List.replicate ((uncommented line).length - ((uncommented line).rdropWhile blank).length) 0

theorem stripBlanks_uncommented (line behind : Bytes) :
    stripBlanks (uncommented line ++ 0 :: behind) =
      (uncommented line).rdropWhile blank ++ 0 :: (strippedBlanks line ++ behind) := by
  have shift : strippedBlanks line ++ 0 :: behind = 0 :: (strippedBlanks line ++ behind) := by
    rw [List.append_cons]
    unfold strippedBlanks
    rw [← List.replicate_succ', List.replicate_succ, List.cons_append]
  unfold stripBlanks
  rw [string_terminated (zero_not_mem_uncommented line), List.drop_left, List.append_assoc, ← shift]
  rfl

theorem skipBlanks_strippedBlanks
    (stripped : (uncommented line).rdropWhile blank ≠ uncommented line) (behind : Bytes) :
    string (skipBlanks (strippedBlanks line ++ behind)) = [] := by
  have shorter := (List.rdropWhile_prefix blank (uncommented line)).length_le
  have differs : ((uncommented line).rdropWhile blank).length ≠ (uncommented line).length :=
    fun same => stripped ((List.rdropWhile_prefix blank _).eq_of_length same)
  obtain ⟨count, some⟩ := Nat.exists_eq_succ_of_ne_zero (Nat.sub_ne_zero_of_lt
    (Nat.lt_of_le_of_ne shorter differs))
  unfold strippedBlanks
  rw [some]
  rfl

theorem zero_not_mem_stripped (line : Bytes) : 0 ∉ (uncommented line).rdropWhile blank :=
  fun member => zero_not_mem_uncommented line ((List.rdropWhile_prefix blank _).sublist.mem member)

theorem zero_not_mem_bare (line : Bytes) : 0 ∉ bare line :=
  fun member => zero_not_mem_stripped line ((List.dropWhile_sublist _).mem member)

theorem bare_suffix (suffix : rest <:+ bare line) (some : rest ≠ []) :
    rest.dropWhile blank ≠ [] := by
  intro none
  have inner : rest <:+ (uncommented line).rdropWhile blank :=
    suffix.trans (List.dropWhile_suffix blank)
  have last := List.rdropWhile_last_not blank (uncommented line) (inner.ne_nil some)
  rw [← inner.getLast some] at last
  exact last (List.dropWhile_eq_nil_iff.mp none _ (List.getLast_mem some))

def secondAt (us t : Bytes) : Option Credential :=
  if string t = [] then none
  else if string (behindField inSecond t) = [] then none
  else some ⟨us, t.takeWhile inSecond, string (behindField inSecond t)⟩

theorem cutLine_fields (buf : Bytes) :
    (cutLine buf).1 =
      if string buf = [] ∨ string (skipBlanks buf) = [] then none
      else
        secondAt ((skipBlanks buf).takeWhile inFirst) (behindField inFirst (skipBlanks buf)) := by
  unfold cutLine secondAt
  dsimp only
  split_ifs <;> simp_all

theorem readLine_uncommented (some : bare line ≠ []) (behind : Bytes) :
    (readLine (uncommented line ++ 0 :: behind)).1 =
      secondAt (fields (bare line)).us
        (behindField inFirst (bare line ++ 0 :: (strippedBlanks line ++ behind))) := by
  have plain := zero_not_mem_stripped line
  have start : skipBlanks ((uncommented line).rdropWhile blank ++
      0 :: (strippedBlanks line ++ behind)) = bare line ++ 0 :: (strippedBlanks line ++ behind) :=
    skipBlanks_append plain _
  have text : (uncommented line).rdropWhile blank ≠ [] := by
    intro none
    exact some (by rw [bare, none]; rfl)
  unfold readLine
  rw [stripComments_uncommented, stripBlanks_uncommented, cutLine_fields, start,
    string_terminated plain, string_terminated (zero_not_mem_bare line),
    if_neg (not_or.mpr ⟨text, some⟩), takeWhile_terminated rfl]
  rfl

theorem readLine_blank (none : bare line = []) (behind : Bytes) :
    (readLine (uncommented line ++ 0 :: behind)).1 = Option.none := by
  have start := skipBlanks_append (zero_not_mem_stripped line) (strippedBlanks line ++ behind)
  have text : ((uncommented line).rdropWhile blank).dropWhile blank = [] := none
  unfold readLine
  rw [stripComments_uncommented, stripBlanks_uncommented, cutLine_fields, start, text,
    if_pos (.inr rfl)]

theorem secondAt_more (us : Bytes) (plain : 0 ∉ rest) (more : rest.dropWhile inSecond ≠ [])
    (behind : Bytes) :
    secondAt us (rest ++ 0 :: behind) =
      if (rest.dropWhile inSecond).tail.dropWhile blank = [] then none
      else some ⟨us, rest.takeWhile inSecond, (rest.dropWhile inSecond).tail.dropWhile blank⟩ := by
  have some : rest ≠ [] := fun none => more (by rw [none]; rfl)
  have free : 0 ∉ (rest.dropWhile inSecond).tail.dropWhile blank := by
    intro member
    have inner := (List.tail_sublist _).mem ((List.dropWhile_sublist _).mem member)
    exact plain ((List.dropWhile_sublist _).mem inner)
  unfold secondAt
  rw [behindField_more rfl plain more, string_terminated plain, string_terminated free,
    takeWhile_terminated rfl, if_neg some]

theorem secondAt_over (us : Bytes) (plain : 0 ∉ rest) (some : rest ≠ [])
    (whole : rest.dropWhile inSecond = []) (behind : Bytes) :
    secondAt us (rest ++ 0 :: behind) =
      if string (skipBlanks behind) = [] then none
      else Option.some ⟨us, rest.takeWhile inSecond, string (skipBlanks behind)⟩ := by
  unfold secondAt
  rw [behindField_over rfl whole, string_terminated plain, takeWhile_terminated rfl, if_neg some]

theorem second_unmarked (unmarked : 33 ∉ rest.takeWhile inFirst) :
    rest.takeWhile inSecond = rest.takeWhile inFirst ∧
      rest.dropWhile inSecond = rest.dropWhile inFirst := by
  induction rest with
  | nil => exact ⟨rfl, rfl⟩
  | cons octet others ih =>
    cases goes : inFirst octet with
    | false =>
      have stops : inSecond octet = false := by rw [inSecond, ← inFirst, goes, Bool.false_and]
      simp only [List.takeWhile_cons, List.dropWhile_cons, goes, stops, Bool.false_eq_true,
        if_false, and_self]
    | true =>
      rw [List.takeWhile_cons_of_pos goes, List.mem_cons, not_or] at unmarked
      have on : inSecond octet = true := by
        rw [inSecond, ← inFirst, goes, Bool.true_and]
        exact bne_iff_ne.mpr (Ne.symm unmarked.1)
      simp only [List.takeWhile_cons, List.dropWhile_cons, goes, on, if_true]
      exact ⟨congrArg _ (ih unmarked.2).1, (ih unmarked.2).2⟩

theorem second_marked (marked : 33 ∈ rest.takeWhile inFirst) :
    ∃ behind, rest.dropWhile inSecond = 33 :: behind := by
  induction rest with
  | nil => cases marked
  | cons octet others ih =>
    cases goes : inFirst octet with
    | false =>
      rw [List.takeWhile_cons_of_neg (by simp [goes])] at marked
      cases marked
    | true =>
      rw [List.takeWhile_cons_of_pos goes, List.mem_cons] at marked
      by_cases mark : octet = 33
      · rw [mark]
        exact ⟨others, rfl⟩
      · have on : inSecond octet = true := by
          rw [inSecond, ← inFirst, goes, Bool.true_and]
          exact bne_iff_ne.mpr mark
        rw [List.dropWhile_cons, if_pos on]
        exact ih (marked.resolve_left (Ne.symm mark))

theorem second_words (words : ∀ octet ∈ rest, inFirst octet = true) :
    rest.dropWhile inSecond = rest.dropWhile (· != 33) := by
  induction rest with
  | nil => rfl
  | cons octet others ih =>
    have same : inSecond octet = (octet != 33) := by
      rw [inSecond, ← inFirst, words octet List.mem_cons_self, Bool.true_and]
    rw [List.dropWhile_cons, List.dropWhile_cons, same,
      ih fun other member => words other (List.mem_cons_of_mem octet member)]

theorem skip_field (text : Bytes) :
    (text.dropWhile inFirst).dropWhile blank = (text.dropWhile inFirst).tail.dropWhile blank := by
  cases behind : text.dropWhile inFirst with
  | nil => rfl
  | cons stop rest =>
    have some : text.dropWhile inFirst ≠ [] := behind ▸ List.cons_ne_nil _ _
    have ends : blank stop = true := by
      have head := List.head_dropWhile_not inFirst some
      simpa [behind, inFirst] using head
    exact List.dropWhile_cons_of_pos ends

theorem credential_none (none : (fields (bare line)).secret = []) :
    credential line = Option.none := if_pos none

theorem fields_them (text : Bytes) :
    (fields text).them = ((text.dropWhile inFirst).dropWhile blank).takeWhile inFirst := rfl

theorem fields_secret (text : Bytes) :
    (fields text).secret =
      (((text.dropWhile inFirst).dropWhile blank).dropWhile inFirst).dropWhile blank := rfl

theorem tidy_blank (tidies : tidy line = true) (none : (fields (bare line)).secret = [])
    (unmarked : 33 ∉ (fields (bare line)).them) (some : bare line ≠ []) :
    (uncommented line).rdropWhile blank ≠ uncommented line := by
  unfold tidy at tidies
  rw [if_neg (not_not.mpr none), if_neg unmarked, Bool.or_eq_true, decide_eq_true_iff,
    decide_eq_true_iff] at tidies
  exact tidies.resolve_left some

theorem single_reads (tidies : tidy line = true) (some : bare line ≠ [])
    (single : (bare line).dropWhile inFirst = []) (behind : Bytes) :
    (readLine (uncommented line ++ 0 :: behind)).1 = credential line := by
  have second : (fields (bare line)).them = [] := by
    rw [fields_them, single]
    rfl
  have third : (fields (bare line)).secret = [] := by
    rw [fields_secret, single]
    rfl
  have stripped := tidy_blank tidies third (second ▸ List.not_mem_nil) some
  rw [readLine_uncommented some, behindField_over rfl single, credential_none third, secondAt,
    if_pos (skipBlanks_strippedBlanks stripped behind)]

theorem marked_reads (tidies : tidy line = true) (suffix : rest <:+ bare line) (us : Bytes)
    (them : (fields (bare line)).them = rest.takeWhile inFirst)
    (secret : (fields (bare line)).secret = (rest.dropWhile inFirst).dropWhile blank)
    (marked : 33 ∈ rest.takeWhile inFirst) (memory : Bytes) :
    secondAt us (rest ++ 0 :: memory) = credential line := by
  have plain : 0 ∉ rest := fun member => zero_not_mem_bare line (suffix.sublist.mem member)
  obtain ⟨behind, split⟩ := second_marked marked
  have third : (fields (bare line)).secret = [] := by
    by_contra some
    rw [tidy, if_pos some, decide_eq_true_iff] at tidies
    exact tidies (them ▸ marked)
  have short : rest.dropWhile inFirst = [] := by
    by_contra more
    exact bare_suffix ((List.dropWhile_suffix _).trans suffix) more (secret ▸ third)
  have whole : rest.takeWhile inFirst = rest := by
    have halves := List.takeWhile_append_dropWhile (p := inFirst) (l := rest)
    rwa [short, List.append_nil] at halves
  have ends : rest.dropWhile (· != 33) = 33 :: behind :=
    (second_words (List.dropWhile_eq_nil_iff.mp short)).symm.trans split
  rw [tidy, if_neg (not_not.mpr third), if_pos (them ▸ marked), decide_eq_true_iff, them, whole,
    ends] at tidies
  rw [secondAt_more us plain (split ▸ List.cons_ne_nil _ _), split, List.tail_cons,
    (List.cons.inj tidies).2, credential_none third]
  rfl

theorem several_reads (tidies : tidy line = true) (some : bare line ≠ [])
    (more : (bare line).dropWhile inFirst ≠ []) (behind : Bytes) :
    (readLine (uncommented line ++ 0 :: behind)).1 = credential line := by
  have ends : inFirst 0 = false := rfl
  rw [readLine_uncommented some, behindField_more ends (zero_not_mem_bare line) more, ← skip_field]
  have them := fields_them (bare line)
  have secret := fields_secret (bare line)
  have suffix : ((bare line).dropWhile inFirst).dropWhile blank <:+ bare line :=
    (List.dropWhile_suffix _).trans (List.dropWhile_suffix _)
  have nonempty : ((bare line).dropWhile inFirst).dropWhile blank ≠ [] :=
    bare_suffix (List.dropWhile_suffix _) more
  generalize ((bare line).dropWhile inFirst).dropWhile blank = rest at them secret suffix nonempty ⊢
  have plain : 0 ∉ rest := fun member => zero_not_mem_bare line (suffix.sublist.mem member)
  by_cases marked : 33 ∈ rest.takeWhile inFirst
  · exact marked_reads tidies suffix _ them secret marked _
  obtain ⟨field, left⟩ := second_unmarked marked
  by_cases short : rest.dropWhile inFirst = []
  · have third : (fields (bare line)).secret = [] := by
      rw [secret, short]
      rfl
    have stripped := tidy_blank tidies third (them ▸ marked) some
    rw [secondAt_over _ plain nonempty (left.trans short), credential_none third,
      if_pos (skipBlanks_strippedBlanks stripped behind)]
  · have third : (fields (bare line)).secret ≠ [] := by
      rw [secret]
      exact bare_suffix ((List.dropWhile_suffix _).trans suffix) short
    rw [secondAt_more _ plain (left ▸ short), field, left, ← skip_field, ← secret, ← them,
      if_neg third, credential, if_neg third]

/-- A tidy line is read as it stands, whatever is behind it. -/
theorem tidy_reads (tidies : tidy line = true) (behind : Bytes) :
    (readLine (uncommented line ++ 0 :: behind)).1 = credential line := by
  by_cases blankLine : bare line = []
  · rw [readLine_blank blankLine, credential_none (by rw [blankLine]; rfl)]
  by_cases single : (bare line).dropWhile inFirst = []
  · exact single_reads tidies blankLine single behind
  · exact several_reads tidies blankLine single behind

theorem secondAt_names {us t : Bytes} {found : Credential} (read : secondAt us t = some found) :
    found.us = us ∧ found.them = t.takeWhile inSecond := by
  unfold secondAt at read
  split_ifs at read
  cases read
  exact ⟨rfl, rfl⟩

/-- The first field is read as it stands in any case, the second one if it has no exclamation
mark. -/
theorem readLine_names {found : Credential}
    (read : (readLine (uncommented line ++ 0 :: behind)).1 = some found) :
    found.us = (fields (bare line)).us ∧
      ((fields (bare line)).them ≠ [] → 33 ∉ (fields (bare line)).them →
        found.them = (fields (bare line)).them) := by
  by_cases none : bare line = []
  · rw [readLine_blank none] at read
    cases read
  rw [readLine_uncommented none] at read
  obtain ⟨us, them⟩ := secondAt_names read
  refine ⟨us, fun full unmarked => ?_⟩
  have more : (bare line).dropWhile inFirst ≠ [] := by
    intro single
    rw [fields_them, single] at full
    exact full rfl
  have ends : inFirst 0 = false := rfl
  rw [them, behindField_more ends (zero_not_mem_bare line) more, ← skip_field,
    takeWhile_terminated rfl]
  exact (second_unmarked unmarked).1

theorem readLine_stored (line buf : Bytes) :
    ∃ behind, readLine (storeLine line buf) = readLine (uncommented line ++ 0 :: behind) := by
  obtain ⟨behind, stored⟩ := stripComments_storeLine line buf
  refine ⟨behind, ?_⟩
  unfold readLine
  rw [stored, stripComments_uncommented]

/-- A harmless line that is not looked for is passed over. -/
theorem harmless_passed {us them : Bytes} (fine : harmless us them line = true)
    (unfit : (credential line).any (Credential.fits us them) = false) (behind : Bytes) :
    (readLine (uncommented line ++ 0 :: behind)).1.any (Credential.fits us them) = false := by
  unfold harmless at fine
  simp only [Bool.or_eq_true, Bool.and_eq_true, Bool.not_eq_true', decide_eq_true_eq] at fine
  cases read : (readLine (uncommented line ++ 0 :: behind)).1 with
  | none => rfl
  | some found =>
    obtain ⟨first, second⟩ := readLine_names read
    rcases fine with (tidies | other) | ⟨⟨full, unmarked⟩, other⟩
    · rw [← read, tidy_reads tidies]
      exact unfit
    · rw [Option.any_some, Credential.fits, first, other, Bool.false_and]
    · rw [Option.any_some, Credential.fits, second full unmarked, other, Bool.and_false]

end Line

/-! ## The whole file -/

theorem secret_length {line : Bytes} {found : Credential} (reads : credential line = some found) :
    found.secret.length ≤ line.length := by
  unfold credential at reads
  split at reads
  · cases reads
  · cases reads
    have text : (bare line).length ≤ line.length :=
      calc (bare line).length
        _ ≤ ((uncommented line).rdropWhile blank).length := (List.dropWhile_sublist _).length_le
        _ ≤ (uncommented line).length := (List.rdropWhile_prefix blank _).length_le
        _ ≤ (string line).length := (List.takeWhile_sublist _).length_le
        _ ≤ line.length := string_length_le line
    refine le_trans ?_ text
    rw [fields_secret]
    exact ((((List.dropWhile_sublist _).trans (List.dropWhile_sublist _)).trans
      (List.dropWhile_sublist _)).trans (List.dropWhile_sublist _)).length_le

theorem getSecretLoop_lookup {us them : Bytes} {size : Nat} {list : List Bytes}
    (fine : ∀ line ∈ examined us them list, harmless us them line = true)
    (fits : ∀ line ∈ list, line.length ≤ size) (buf : Bytes) :
    getSecretLoop us them size list buf = lookup us them list := by
  induction list generalizing buf with
  | nil => rfl
  | cons line rest ih =>
    have here := fine line List.mem_cons_self
    obtain ⟨behind, stored⟩ := readLine_stored line buf
    unfold getSecretLoop lookup
    rw [stored]
    cases fit : (credential line).any (Credential.fits us them) with
    | true =>
      -- the line that is looked for is a tidy one
      obtain ⟨found, reads, both⟩ := (Option.any_eq_true _ _).mp fit
      have tidies : tidy line = true := by
        unfold credential at reads
        split at reads
        · cases reads
        · cases reads
          obtain ⟨first, second⟩ := Bool.and_eq_true_iff.mp both
          simpa [harmless, first, second] using here
      have first := tidy_reads tidies behind
      have room : found.secret.length ≤ size :=
        (secret_length reads).trans (fits line List.mem_cons_self)
      rw [List.filterMap_cons_some reads, List.find?_cons, both]
      cases known : readLine (uncommented line ++ 0 :: behind) with
      | mk read left =>
        rw [known, reads] at first
        cases first
        simp only [both, if_true, List.take_of_length_le room, Option.map_some]
    | false =>
      have later := ih (fun other member => fine other (by
        rw [examined, fit]
        exact List.mem_cons_of_mem line member)) fun other member =>
          fits other (List.mem_cons_of_mem line member)
      have passed := harmless_passed here fit behind
      have skipped : ((line :: rest).filterMap credential).find? (Credential.fits us them) =
          (rest.filterMap credential).find? (Credential.fits us them) := by
        cases reads : credential line with
        | none => rw [List.filterMap_cons_none reads]
        | some found =>
          rw [reads, Option.any_some] at fit
          rw [List.filterMap_cons_some reads, List.find?_cons, fit]
      rw [skipped]
      cases known : readLine (uncommented line ++ 0 :: behind) with
      | mk read left =>
        rw [known] at passed
        cases read with
        | none => exact later left
        | some found =>
          rw [Option.any_some] at passed
          simp only [passed, Bool.false_eq_true, if_false]
          exact later left

/-- Whatever is in the buffer, the secret of the first line with both names is found if all lines
up to that one are harmless. -/
theorem secrets_found {file us them : Bytes}
    (short : ∀ line ∈ lines file, (line.takeWhile (· != 10)).length < 99)
    (fine : ∀ line ∈ examined us them (lines file), harmless us them line = true) (buf : Bytes) :
    getSecret (some file) buf us them 120 = lookup us them (lines file) := by
  have whole : fgetsLines [] file = lines file := by
    rw [fgetsLines_short List.not_mem_nil (by rwa [prepend_nil]), prepend_nil]
  have fits : ∀ line ∈ lines file, line.length ≤ 120 := by
    intro line member
    have bound := short line member
    have newline := lines_length member
    omega
  unfold getSecret
  rw [Option.bind_some, whole]
  exact getSecretLoop_lookup fine fits buf

/-- The file `x y#z`, `a b c`, `a b#d`: neither the first nor the last line gets in the way. -/
theorem secrets_found_one :
    let file : Bytes :=
      [120, 32, 121, 35, 122, 10, 97, 32, 98, 32, 99, 10, 97, 32, 98, 35, 100, 10]
    (∀ line ∈ lines file, (line.takeWhile (· != 10)).length < 99) ∧
      ∀ buf, getSecret (some file) buf [65] [66] 120 = some [99] :=
  ⟨by decide, fun buf => secrets_found (by decide) (by decide) buf⟩

/-- In the line `a b#c` the comment is the secret. -/
theorem comment_is_secret :
    ∃ file us them, (∀ octet ∈ file, octet < 128) ∧
      (∀ line ∈ lines file, (line.takeWhile (· != 10)).length < 99) ∧
      lookup us them (lines file) = none ∧
      getSecret (some file) (List.replicate bufSize 0) us them 120 = some [99, 10] :=
  ⟨[97, 32, 98, 35, 99, 10], [97], [98], by decide +kernel, by decide, by decide, by decide +kernel⟩

end Xl2tpd
