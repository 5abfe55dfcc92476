import Xl2tpd.OptionText

/-!
# The control pipe

`do_control` reads one message after the other into one buffer and finds the command and its
handler. What is left of earlier messages stands directly behind the present one.
-/

namespace Xl2tpd

set_option autoImplicit false

open CString

/-! ## `do_control` -/

def controlPipeMessageSize : Nat := 1024

/-- A message as one `read` returns it. -/
structure PipeMessage where
  octets : Bytes
  nonempty : octets ≠ []
  short : octets.length < controlPipeMessageSize

structure PipeMemory where
  octets : Bytes
  size : controlPipeMessageSize ≤ octets.length

/-- A message is read over the start of the buffer, and a newline at its end becomes a zero. -/
def PipeMemory.receive (memory : PipeMemory) (message : PipeMessage) : Bytes :=
  let cnt := message.octets.length
  let buf := message.octets ++ memory.octets.drop cnt
  if buf[cnt - 1]? = some 10 then buf.set (cnt - 1) 0 else buf

/-- The command behind the name of a result file, if the file can be opened. -/
def findNamed (opens : Bytes → Bool) (name : Bytes) : Bytes → Option Bytes
  | [] => none
  | next :: command =>
      if name = [] ∨ next = 0 then none else if opens name then some command else none

/-- Where the command starts: behind the name of the result file, if there is one. -/
def findCommand (opens : Bytes → Bool) (memory : Bytes) : Option Bytes :=
  if memory.head? = some 64 then
    let name := (string memory.tail).takeWhile (· != 32)
    findNamed opens name (memory.tail.drop name.length)
  else some memory

def controlLetters : Bytes := text "xzytcohdarsw"

/-- The add requests, whose handlers go on behind the name of the entry. -/
def addLetters : Bytes := text "za"

/-- The command behind its letter and the blanks after it, where the name starts. -/
def nameOnward (command : Bytes) : Bytes := ((string command).drop 1).dropWhile (· == 32)

/-- The text at `tunstr + strlen (tunstr) + 1`, if there is a name at all. -/
def optionText (command : Bytes) : Option Bytes :=
  if nameOnward command = [] then none
  else
    let left := (nameOnward command).dropWhile (· != 32)
    some (string (command.drop ((string command).length - left.length + 1)))

/-- What a handler sees: the text at `bufp`, and for an add request the text of the options. -/
structure Argument where
  text : Bytes
  options : Option Bytes
  deriving DecidableEq, Repr

def argument (command : Bytes) : Argument where
  text := string command
  options := if command.headD 0 ∈ addLetters then optionText command else none

inductive PipeReply
  | dropped
  | handled (letter : UInt8) (argument : Argument)
  | unknown (letter : UInt8)
  | ignored (letter : UInt8)
  deriving DecidableEq, Repr

/-- The command is reported as unknown only as long as no handler was found for any message. -/
def serveCommand (found : Bool) (command : Bytes) : PipeReply :=
  let letter := command.headD 0
  if letter ∈ controlLetters then .handled letter (argument command)
  else if found then .ignored letter
  else .unknown letter

def serve (opens : Bytes → Bool) (found : Bool) (memory : Bytes) : PipeReply :=
  match findCommand opens memory with
  | none => .dropped
  | some command => serveCommand found command

/-! ## What a message says by itself -/

def PipeMessage.own (message : PipeMessage) : Bytes :=
  if message.octets.getLast? = some 10 then message.octets.dropLast ++ [0] else message.octets

theorem PipeMessage.own_ne_nil (message : PipeMessage) : message.own ≠ [] := by
  unfold PipeMessage.own
  split
  · simp
  · exact message.nonempty

theorem PipeMemory.receive_eq (memory : PipeMemory) (message : PipeMessage) :
    memory.receive message = message.own ++ memory.octets.drop message.octets.length := by
  obtain ⟨octets, nonempty, short⟩ := message
  obtain ⟨front, last, rfl⟩ := List.eq_nil_or_concat octets |>.resolve_left nonempty
  have end_at : ∀ rest : Bytes, ((front ++ [last]) ++ rest)[front.length]? = some last := by simp
  have cut : ∀ rest : Bytes, ((front ++ [last]) ++ rest).set front.length 0 =
      (front ++ [0]) ++ rest := by simp
  have size : (front ++ [last]).length - 1 = front.length := by simp
  unfold PipeMemory.receive PipeMessage.own
  simp only [List.concat_eq_append, size, end_at, cut, List.getLast?_concat, List.dropLast_concat]
  split <;> rfl

/-- What the message says by itself, with nothing but zeros behind it. -/
def PipeMessage.alone (opens : Bytes → Bool) (message : PipeMessage) : PipeReply :=
  serve opens false message.own

/-! ### The command -/

variable {memory : Bytes}

section Command

variable {opens : Bytes → Bool} {own behind rest : Bytes}

theorem fileName_append (ended : 0 ∈ own ∨ 32 ∈ own) (rest : Bytes) :
    (string (own ++ rest)).takeWhile (· != 32) = (string own).takeWhile (· != 32) ∧
      ((string own).takeWhile (· != 32)).length < own.length := by
  induction own with
  | nil => simp at ended
  | cons first own ih =>
    unfold string at ih ⊢
    by_cases zero : first = 0
    · simp [zero]
    · by_cases space : first = 32
      · simp [space]
      · have later : 0 ∈ own ∨ 32 ∈ own := by
          simpa [eq_comm, zero, space] using ended
        obtain ⟨same, short⟩ := ih later
        simp [zero, space, same, short]

theorem findCommand_plain (plain : memory.head? ≠ some 64) :
    findCommand opens memory = some memory := by
  unfold findCommand
  exact if_neg plain

theorem findNamed_append (name : Bytes) (next : UInt8) (rest behind : Bytes) :
    findNamed opens name (next :: rest ++ behind) =
      (findNamed opens name (next :: rest)).map (· ++ behind) := by
  rw [List.cons_append, findNamed, findNamed]
  by_cases bare : name = [] ∨ next = 0
  · rw [if_pos bare, if_pos bare]
    rfl
  · rw [if_neg bare, if_neg bare]
    cases opens name <;> rfl

theorem findCommand_named (memory : Bytes) :
    findCommand opens (64 :: memory) =
      findNamed opens ((string memory).takeWhile (· != 32))
        (memory.drop ((string memory).takeWhile (· != 32)).length) := by
  unfold findCommand
  exact if_pos rfl

theorem findCommand_append (nonempty : own ≠ [])
    (ended : own.head? = some 64 → 0 ∈ own.tail ∨ 32 ∈ own.tail) :
    findCommand opens (own ++ behind) = (findCommand opens own).map (· ++ behind) := by
  obtain ⟨first, own, rfl⟩ := List.exists_cons_of_ne_nil nonempty
  by_cases named : first = 64
  · subst named
    obtain ⟨same, short⟩ := fileName_append (ended rfl) behind
    rw [List.cons_append, findCommand_named, findCommand_named, List.tail_cons] at *
    rw [same]
    have split : (own ++ behind).drop ((string own).takeWhile (· != 32)).length =
        own.drop ((string own).takeWhile (· != 32)).length ++ behind :=
      List.drop_append_of_le_length (Nat.le_of_lt short)
    have left : own.drop ((string own).takeWhile (· != 32)).length ≠ [] := by
      simpa using short
    obtain ⟨next, rest, cut⟩ := List.exists_cons_of_ne_nil left
    rw [split, cut, findNamed_append]
  · have plain : ∀ rest : Bytes, (first :: rest).head? ≠ some 64 := by simpa using named
    rw [List.cons_append, findCommand_plain (plain _), findCommand_plain (plain _)]
    rfl

theorem fileName_unended (noZero : 0 ∉ own) (noSpace : 32 ∉ own) (behind : Bytes) :
    (string (own ++ behind)).takeWhile (· != 32) =
      own ++ (string behind).takeWhile (· != 32) := by
  rw [string_append noZero, List.takeWhile_append_of_pos]
  intro octet member
  have differs : octet ≠ 32 := fun space => noSpace (space ▸ member)
  simpa using differs

theorem behind_space (space : 32 ∈ string memory) :
    ∃ rest, memory.drop ((string memory).takeWhile (· != 32)).length = 32 :: rest := by
  induction memory with
  | nil => simp [string] at space
  | cons first rest ih =>
    unfold string at ih space ⊢
    by_cases zero : first = 0
    · simp [zero] at space
    · by_cases here : first = 32
      · exact ⟨rest, by simp [here]⟩
      · have apart : 32 ≠ first := Ne.symm here
        simpa [zero, here, apart] using ih (by simpa [zero, apart] using space)

theorem behind_end (noSpace : 32 ∉ string memory) (name : Bytes) :
    findNamed opens name (memory.drop ((string memory).takeWhile (· != 32)).length) = none := by
  induction memory with
  | nil => rfl
  | cons first rest ih =>
    unfold string at ih noSpace ⊢
    by_cases zero : first = 0
    · simp [zero, findNamed]
    · have parts : 32 ≠ first ∧ 32 ∉ rest.takeWhile (· != 0) := by
        simpa [zero] using noSpace
      simpa [zero, parts.1.symm] using ih parts.2

theorem findCommand_unended (named : own.head? = some 64) (noZero : 0 ∉ own.tail)
    (noSpace : 32 ∉ own.tail) :
    findCommand opens (own ++ behind) = none ↔
      (32 ∈ string behind →
        own.tail ++ (string behind).takeWhile (· != 32) = [] ∨
          opens (own.tail ++ (string behind).takeWhile (· != 32)) = false) := by
  obtain ⟨own, rfl⟩ : ∃ rest, own = 64 :: rest := by
    cases own with
    | nil => cases named
    | cons first rest => exact ⟨rest, by rw [Option.some.inj named]⟩
  simp only [List.tail_cons] at noZero noSpace ⊢
  rw [List.cons_append, findCommand_named, fileName_unended noZero noSpace, List.length_append,
    List.drop_append]
  by_cases space : 32 ∈ string behind
  · obtain ⟨rest, cut⟩ := behind_space space
    rw [List.drop_eq_nil_of_le (by omega), List.nil_append, Nat.add_sub_cancel_left, cut, findNamed]
    by_cases bare : own ++ (string behind).takeWhile (· != 32) = []
    · rw [if_pos (.inl bare)]
      exact iff_of_true rfl fun _ => .inl bare
    · rw [if_neg (by simpa using bare), or_iff_right bare]
      cases opens (own ++ (string behind).takeWhile (· != 32)) <;> simp [space]
  · rw [List.drop_eq_nil_of_le (by omega), List.nil_append, Nat.add_sub_cancel_left,
      behind_end space]
    exact iff_of_true rfl fun absurd => (space absurd).elim

end Command

/-! ### The argument -/

section Argument

variable {command behind : Bytes}

/-- The handler of an add request goes past the zero if the name ends the text. -/
def readsBehind (command : Bytes) : Prop :=
  command.headD 0 ∈ addLetters ∧ nameOnward command ≠ [] ∧ 32 ∉ nameOnward command

instance (command : Bytes) : Decidable (readsBehind command) :=
  inferInstanceAs (Decidable (_ ∧ _ ∧ _))

/-- How many zeros must stand behind a command, so that its handler sees nothing else. -/
def demands (command : Bytes) : Nat :=
  (if readsBehind command then 2 else 1) - command.count 0

theorem nameOnward_congr {other : Bytes} (same : string other = string command) :
    nameOnward other = nameOnward command := by
  unfold nameOnward
  rw [same]

def Zeros (count : Nat) (behind : Bytes) : Prop := ∀ octet ∈ behind.take count, octet = 0

theorem zeros_zero (behind : Bytes) : Zeros 0 behind := by
  intro octet member
  simp at member

theorem zeros_one : Zeros 1 behind ↔ string behind = [] := string_nil_iff.symm

theorem zeros_two : Zeros 2 behind ↔ string behind = [] ∧ string (behind.drop 1) = [] := by
  unfold Zeros
  rw [string_nil_iff, string_nil_iff]
  cases behind with
  | nil => simp
  | cons first rest =>
    cases rest with
    | nil => simp
    | cons second rest => simp

def optionOffset (command : Bytes) : Nat :=
  (string command).length - ((nameOnward command).dropWhile (· != 32)).length + 1

theorem optionText_eq (named : nameOnward command ≠ []) :
    optionText command = some (string (command.drop (optionOffset command))) := by
  unfold optionText
  rw [if_neg named]
  rfl

theorem optionOffset_space (space : 32 ∈ nameOnward command) :
    optionOffset command ≤ (string command).length := by
  have short : (nameOnward command).length ≤ (string command).length := by
    unfold nameOnward
    refine le_trans (List.length_dropWhile_le _ _) ?_
    simp
  have left : ((nameOnward command).dropWhile (· != 32)) ≠ [] := by
    intro none
    have all := List.dropWhile_eq_nil_iff.mp none 32 space
    simp at all
  have some := List.length_pos_of_ne_nil left
  have fewer := List.length_dropWhile_le (· != 32) (nameOnward command)
  unfold optionOffset
  omega

theorem optionOffset_end (noSpace : 32 ∉ nameOnward command) :
    optionOffset command = (string command).length + 1 := by
  have left : ((nameOnward command).dropWhile (· != 32)) = [] := by
    refine List.dropWhile_eq_nil_iff.mpr ?_
    intro octet member
    have differs : octet ≠ 32 := fun space => noSpace (space ▸ member)
    simpa using differs
  unfold optionOffset
  rw [left]
  rfl

theorem options_inside (same : string (command ++ behind) = string command)
    (space : 32 ∈ nameOnward command) :
    string ((command ++ behind).drop (optionOffset command)) =
      string (command.drop (optionOffset command)) := by
  have inside := optionOffset_space space
  have short := string_length_le command
  rw [List.drop_append_of_le_length (by omega), string_append_iff]
  rcases string_append_iff.mp same with ended | bare
  · obtain ⟨rest, split⟩ := string_split ended
    left
    rw [split, List.drop_append_of_le_length (by rw [← split]; exact inside)]
    simp
  · exact .inr bare

theorem options_behind (same : string (command ++ behind) = string command)
    (noSpace : 32 ∉ nameOnward command) :
    string ((command ++ behind).drop (optionOffset command)) =
      string (command.drop (optionOffset command)) ↔ Zeros (2 - command.count 0) behind := by
  rw [optionOffset_end noSpace]
  by_cases ended : 0 ∈ command
  · obtain ⟨rest, split⟩ := string_split ended
    have plain := zero_not_mem_string command
    clear same noSpace ended
    generalize string command = front at split plain ⊢
    subst split
    have cut : ∀ more : Bytes, (front ++ 0 :: more).drop (front.length + 1) = more := by simp
    have zeros : (front ++ 0 :: rest).count 0 = rest.count 0 + 1 := by
      rw [List.count_append, List.count_eq_zero_of_not_mem plain, List.count_cons_self,
        Nat.zero_add]
    rw [List.append_assoc, List.cons_append, cut, cut, string_append_iff, zeros]
    by_cases more : 0 ∈ rest
    · have positive := List.count_pos_iff.mpr more
      have enough : 2 - (rest.count 0 + 1) = 0 := by omega
      rw [enough]
      exact iff_of_true (.inl more) (zeros_zero behind)
    · rw [List.count_eq_zero_of_not_mem more, or_iff_right more, ← zeros_one]
  · have bare := (string_append_iff.mp same).resolve_left ended
    have past : (command ++ behind).drop (command.length + 1) = behind.drop 1 := by
      simp [List.drop_append]
    rw [string_self ended, past, List.drop_eq_nil_of_le (Nat.le_succ _),
      List.count_eq_zero_of_not_mem ended, zeros_two, and_iff_right bare]
    rfl

/-- A handler sees what the command says by itself exactly if there are zeros enough behind. -/
theorem argument_append (nonempty : command ≠ []) :
    argument (command ++ behind) = argument command ↔ Zeros (demands command) behind := by
  have letter : (command ++ behind).headD 0 = command.headD 0 := by
    cases command with
    | nil => exact absurd rfl nonempty
    | cons first rest => rfl
  unfold argument
  rw [Argument.mk.injEq, letter]
  by_cases same : string (command ++ behind) = string command
  · have name := nameOnward_congr same
    have offset : optionOffset (command ++ behind) = optionOffset command := by
      unfold optionOffset
      rw [same, name]
    -- one zero is there already, or stands directly behind
    have one : Zeros (1 - command.count 0) behind := by
      rcases string_append_iff.mp same with ended | bare
      · have positive := List.count_pos_iff.mpr ended
        have enough : 1 - command.count 0 = 0 := by omega
        rw [enough]
        exact zeros_zero behind
      · intro octet member
        exact zeros_one.mpr bare octet (List.take_subset_take_left _ (by omega) member)
    rw [and_iff_right same]
    by_cases adds : command.headD 0 ∈ addLetters
    · rw [if_pos adds, if_pos adds]
      by_cases named : nameOnward command = []
      · have reads : ¬ readsBehind command := fun reads => reads.2.1 named
        unfold optionText demands
        rw [if_pos (name.trans named), if_pos named, if_neg reads]
        exact iff_of_true rfl one
      · rw [optionText_eq named, optionText_eq (name ▸ named), Option.some.injEq, offset]
        unfold demands
        by_cases space : 32 ∈ nameOnward command
        · have reads : ¬ readsBehind command := fun reads => reads.2.2 space
          rw [if_neg reads]
          exact iff_of_true (options_inside same space) one
        · have reads : readsBehind command := ⟨adds, named, space⟩
          rw [if_pos reads]
          exact options_behind same space
    · have reads : ¬ readsBehind command := fun reads => adds reads.1
      unfold demands
      rw [if_neg adds, if_neg adds, if_neg reads]
      exact iff_of_true rfl one
  · refine iff_of_false (fun both => same both.1) fun zeros => same ?_
    have ended : 0 ∉ command := fun ended => same (string_append_of_mem ended behind)
    refine string_append_iff.mpr (.inr (zeros_one.mp ?_))
    intro octet member
    refine zeros octet (List.take_subset_take_left _ ?_ member)
    unfold demands
    rw [List.count_eq_zero_of_not_mem ended]
    split <;> omega

end Argument

/-! ### The message -/

/-- How many zeros must stand behind a message from its command on. -/
def needs (command : Bytes) : Nat :=
  if command = [] then 1
  else if command.headD 0 ∈ controlLetters then demands command
  else 0

section Message

variable {opens : Bytes → Bool} {found : Bool} {command own behind : Bytes}

theorem serveCommand_known (known : command.headD 0 ∈ controlLetters) :
    serveCommand found command = .handled (command.headD 0) (argument command) := if_pos known

theorem serveCommand_unknown (unknown : command.headD 0 ∉ controlLetters) :
    serveCommand found command =
      if found then .ignored (command.headD 0) else .unknown (command.headD 0) := if_neg unknown

theorem serveCommand_bare :
    serveCommand found behind = .unknown 0 ↔ string behind = [] ∧ found = false := by
  have zero : (0 : UInt8) ∉ controlLetters := by decide
  have first : string behind = [] ↔ behind.headD 0 = 0 := by
    cases behind <;> simp [string, List.takeWhile_cons]
  rw [first]
  by_cases letter : behind.headD 0 ∈ controlLetters
  · have differs : behind.headD 0 ≠ 0 := fun same => zero (same ▸ letter)
    rw [serveCommand_known letter]
    exact iff_of_false (by simp) fun both => differs both.1
  · rw [serveCommand_unknown letter]
    cases found <;> simp

theorem serveCommand_append :
    serveCommand found (command ++ behind) = serveCommand false command ↔
      Zeros (needs command) behind ∧ (command.headD 0 ∉ controlLetters → found = false) := by
  by_cases bare : command = []
  · subst bare
    have zero : ([] : Bytes).headD 0 ∉ controlLetters := by decide
    have alone : serveCommand false [] = .unknown 0 := rfl
    rw [List.nil_append, alone, serveCommand_bare, ← zeros_one, forall_prop_of_true zero]
    rfl
  · have letter : (command ++ behind).headD 0 = command.headD 0 := by
      cases command with
      | nil => exact absurd rfl bare
      | cons first rest => rfl
    unfold needs
    rw [if_neg bare]
    by_cases known : command.headD 0 ∈ controlLetters
    · rw [serveCommand_known (letter.symm ▸ known), serveCommand_known known, letter, if_pos known,
        PipeReply.handled.injEq, argument_append bare, and_iff_right rfl]
      exact (and_iff_left fun unknown => absurd known unknown).symm
    · rw [serveCommand_unknown (letter.symm ▸ known), serveCommand_unknown known, letter,
        if_neg known, forall_prop_of_true known, and_iff_right (zeros_zero behind)]
      cases found <;> simp

/-- Nothing of what stands behind the message shows: one that ends within the name of its file is
dropped, any other has zeros where its handler reads on, and none was found before an unknown
command. -/
def Undisturbed (opens : Bytes → Bool) (found : Bool) (own behind : Bytes) : Prop :=
  if own.head? = some 64 ∧ 0 ∉ own.tail ∧ 32 ∉ own.tail then
    32 ∈ string behind →
      own.tail ++ (string behind).takeWhile (· != 32) = [] ∨
        opens (own.tail ++ (string behind).takeWhile (· != 32)) = false
  else
    ∀ command, findCommand opens own = some command →
      Zeros (needs command) behind ∧ (command.headD 0 ∉ controlLetters → found = false)

theorem serve_dropped :
    serve opens found memory = .dropped ↔ findCommand opens memory = none := by
  unfold serve
  cases findCommand opens memory with
  | none => simp
  | some command =>
    simp only [serveCommand]
    split
    · simp
    · split <;> simp

theorem serve_append (nonempty : own ≠ []) :
    serve opens found (own ++ behind) = serve opens false own ↔
      Undisturbed opens found own behind := by
  unfold Undisturbed
  by_cases open' : own.head? = some 64 ∧ 0 ∉ own.tail ∧ 32 ∉ own.tail
  · rw [if_pos open']
    obtain ⟨named, noZero, noSpace⟩ := open'
    have alone : findCommand opens own = none := by
      have bare := @findCommand_unended opens own [] named noZero noSpace
      rw [List.append_nil] at bare
      exact bare.mpr (by simp [string])
    rw [serve_dropped.mpr alone, serve_dropped, findCommand_unended named noZero noSpace]
  · rw [if_neg open']
    have ended : own.head? = some 64 → 0 ∈ own.tail ∨ 32 ∈ own.tail := by
      intro named
      by_contra neither
      exact open' ⟨named, fun zero => neither (.inl zero), fun space => neither (.inr space)⟩
    unfold serve
    rw [findCommand_append nonempty ended]
    cases findCommand opens own with
    | none => simp
    | some command =>
      simp only [Option.map_some, Option.some.injEq, forall_eq']
      exact serveCommand_append

end Message

/-! ## A run of messages -/

/-- A message, what opening its file says, and what its handler leaves of the memory. -/
structure Delivery where
  message : PipeMessage
  opens : Bytes → Bool
  left : PipeMemory

def PipeReply.isHandled : PipeReply → Bool
  | .handled .. => true
  | _ => false

/-- What becomes of the messages that the reads of one call of `do_control` return. -/
def servedAll (found : Bool) (memory : PipeMemory) : List Delivery → List PipeReply
  | [] => []
  | delivery :: rest =>
      let served := serve delivery.opens found (memory.receive delivery.message)
      served :: servedAll (found || served.isHandled) delivery.left rest

def AllUndisturbed (found : Bool) (memory : PipeMemory) : List Delivery → Prop
  | [] => True
  | delivery :: rest =>
      Undisturbed delivery.opens found delivery.message.own
        (memory.octets.drop delivery.message.octets.length) ∧
      AllUndisturbed
        (found || (serve delivery.opens found (memory.receive delivery.message)).isHandled)
        delivery.left rest

/-- Every message of a run is served as it says by itself exactly if none is disturbed by what
earlier ones left. -/
theorem requests_independent_iff (found : Bool) (memory : PipeMemory) (deliveries : List Delivery) :
    servedAll found memory deliveries =
        deliveries.map (fun delivery => delivery.message.alone delivery.opens) ↔
      AllUndisturbed found memory deliveries := by
  induction deliveries generalizing found memory with
  | nil => exact iff_of_true rfl trivial
  | cons delivery rest ih =>
    unfold servedAll AllUndisturbed
    rw [List.map_cons, List.cons.injEq, ih, PipeMemory.receive_eq]
    exact and_congr_left' (serve_append delivery.message.own_ne_nil)

def freshPipe : PipeMemory := ⟨List.replicate 1024 0, by decide +kernel⟩

def officePipe : PipeMemory :=
  ⟨text "c officetunnel" ++ List.replicate 1010 0, by decide +kernel⟩

def openAll (message : PipeMessage) (left : PipeMemory) : Delivery := ⟨message, fun _ => true, left⟩

/-- The second connect request shows the end of the first; an unknown command is not reported. -/
theorem earlier_request_shows :
    let deliveries :=
      [openAll ⟨text "c officetunnel", by decide, by decide⟩ officePipe,
        openAll ⟨text "c of", by decide, by decide⟩ officePipe,
        openAll ⟨text "q", by decide, by decide⟩ officePipe]
    servedAll false freshPipe deliveries =
      [.handled 99 ⟨text "c officetunnel", none⟩, .handled 99 ⟨text "c officetunnel", none⟩,
        .ignored 113] ∧
    deliveries.map (fun delivery => delivery.message.alone delivery.opens) =
      [.handled 99 ⟨text "c officetunnel", none⟩, .handled 99 ⟨text "c of", none⟩,
        .unknown 113] := by
  decide +kernel

end Xl2tpd
