import Xl2tpd.Daemon
import Xl2tpd.Lib.CString
import Xl2tpd.Lib.Loop

/-!
# The text of options

`parse_one_line` cuts the text of an add request at its semicolons and hands the pairs `word =
value` to `parse_one_option`.
-/

namespace Xl2tpd

set_option autoImplicit false

open CString

/-! ## `parse_one_line` -/

/-- What `parse_one_option` returns: 0, -1 or -2. -/
inductive OptionCode
  | taken
  | refused
  | unknown
  deriving DecidableEq, Repr

/-- The variables of the loop: the token, the rest for `strtok`, the entry, the pairs so far. -/
structure Line (Item : Type) where
  token : Option Bytes
  left : Bytes
  item : Item
  passed : List (Bytes × Bytes)
  deriving DecidableEq, Repr

structure LineEnd (Item : Type) where
  success : Bool
  item : Item
  passed : List (Bytes × Bytes)
  deriving DecidableEq, Repr

section Parser

variable {Item : Type}

def splitOption (token : Bytes) : Option (Bytes × Bytes) :=
  if 61 ∈ token then
    some ((token.takeWhile (· != 61)).rdropWhile blank,
      ((token.dropWhile (· != 61)).drop 1).dropWhile blank)
  else none

def Line.next (left : Bytes) (item : Item) (passed : List (Bytes × Bytes)) : Line Item where
  token := (strtok 59 left).map Prod.fst
  left := (strtok 59 left).elim [] Prod.snd
  item := item
  passed := passed

/-- The part of the body behind the blanks, up to the next call of `strtok`. -/
def takeToken (option : Item → Bytes → Bytes → Item × OptionCode) (item : Item)
    (passed : List (Bytes × Bytes)) (token : Bytes) :
    (Item × List (Bytes × Bytes)) ⊕ LineEnd Item :=
  match splitOption token with
  | none => .inr ⟨false, item, passed⟩
  | some (word, value) =>
      let passed := passed ++ [(word, value)]
      match option item word value with
      | (item, .taken) => .inl (item, passed)
      | (item, .refused) => .inr ⟨false, item, passed⟩
      | (item, .unknown) => .inr ⟨false, item, passed⟩

/-- The body of the loop. A blank token goes on without a call of `strtok`. -/
def lineBody (option : Item → Bytes → Bytes → Item × OptionCode) (line : Line Item) :
    Line Item ⊕ LineEnd Item :=
  match line.token with
  | none => .inr ⟨true, line.item, line.passed⟩
  | some token =>
      if trim token = [] then .inl { line with token := some [] }
      else
        match takeToken option line.item line.passed (trim token) with
        | .inl (item, passed) => .inl (Line.next line.left item passed)
        | .inr last => .inr last

/-- `parse_one_line` on the string in memory comes to an end. -/
def ParsesLine (option : Item → Bytes → Bytes → Item × OptionCode) (memory : Bytes) (item : Item)
    (outcome : LineEnd Item) : Prop :=
  Loop.Halts (lineBody option) (Line.next (string memory) item []) outcome

/-! ### The loop over the tokens -/

/-- What becomes of the tokens one by one; nothing if the loop does not leave a blank one. -/
def lineEnd (option : Item → Bytes → Bytes → Item × OptionCode) (item : Item)
    (passed : List (Bytes × Bytes)) : List Bytes → Option (LineEnd Item)
  | [] => some ⟨true, item, passed⟩
  | token :: rest =>
      if trim token = [] then none
      else
        match takeToken option item passed (trim token) with
        | .inl (item, passed) => lineEnd option item passed rest
        | .inr last => some last

/-- All tokens are options, and all are taken. -/
def takesAll (option : Item → Bytes → Bytes → Item × OptionCode) (item : Item) :
    List Bytes → Option Item
  | [] => some item
  | token :: rest =>
      match takeToken option item [] (trim token) with
      | .inl (item, _) => takesAll option item rest
      | .inr _ => none

variable {option : Item → Bytes → Bytes → Item × OptionCode} {item : Item} {left : Bytes}
  {passed : List (Bytes × Bytes)} {outcome : LineEnd Item} {more : List (Bytes × Bytes)}
  {token : Bytes}

theorem lineBody_done (cut : strtok 59 left = none) :
    lineBody option (Line.next left item passed) = .inr ⟨true, item, passed⟩ := by
  unfold lineBody Line.next
  rw [cut]
  rfl

/-- A blank token is looked at for ever. -/
theorem not_halts_blank {line : Line Item} (here : line.token = some token)
    (blanks : trim token = []) : ¬ Loop.Halts (lineBody option) line outcome := by
  refine Loop.not_halts (fun line => ∃ token, line.token = some token ∧ trim token = []) ?_
    ⟨token, here, blanks⟩
  rintro line ⟨token, here, blanks⟩
  refine ⟨{ line with token := some [] }, ?_, [], rfl, rfl⟩
  unfold lineBody
  rw [here]
  exact if_pos blanks

section Turn

variable {token rest : Bytes}

theorem lineBody_next {changed : Item} (cut : strtok 59 left = some (token, rest))
    (full : trim token ≠ [])
    (goes : takeToken option item passed (trim token) = .inl (changed, more)) :
    lineBody option (Line.next left item passed) = .inl (Line.next rest changed more) := by
  unfold lineBody
  simp only [Line.next, cut, Option.map_some, Option.elim_some, goes]
  rw [if_neg full]

theorem lineBody_last {last : LineEnd Item} (cut : strtok 59 left = some (token, rest))
    (full : trim token ≠ []) (stops : takeToken option item passed (trim token) = .inr last) :
    lineBody option (Line.next left item passed) = .inr last := by
  unfold lineBody
  simp only [Line.next, cut, Option.map_some, Option.elim_some, stops]
  rw [if_neg full]

end Turn

theorem halts_line_iff (pieces : List Bytes) (cut : tokens 59 left = pieces) :
    Loop.Halts (lineBody option) (Line.next left item passed) outcome ↔
      lineEnd option item passed pieces = some outcome := by
  induction pieces generalizing left item passed with
  | nil =>
    cases taken : strtok 59 left with
    | none => rw [Loop.halts_last (lineBody_done taken), lineEnd, Option.some.injEq]
    | some pair =>
      rw [strtok_some taken] at cut
      cases cut
  | cons token rest ih =>
    cases taken : strtok 59 left with
    | none =>
      rw [strtok_none taken] at cut
      cases cut
    | some pair =>
      obtain ⟨first, behind⟩ := pair
      rw [strtok_some taken, List.cons.injEq] at cut
      obtain ⟨rfl, cut⟩ := cut
      have here : (Line.next left item passed).token = some first := by
        simp [Line.next, taken]
      unfold lineEnd
      split
      next blanks => simpa using not_halts_blank here blanks
      next full =>
        cases turn : takeToken option item passed (trim first) with
        | inl went =>
          obtain ⟨changed, more⟩ := went
          simp only
          rw [Loop.halts_step (lineBody_next taken full turn), ih cut]
        | inr last =>
          simp only
          rw [Loop.halts_last (lineBody_last taken full turn), Option.some.injEq]

theorem parsesLine_iff {memory : Bytes} :
    ParsesLine option memory item outcome ↔
      lineEnd option item [] (tokens 59 (string memory)) = some outcome :=
  halts_line_iff _ rfl

/-! ### What is passed -/

theorem takeToken_passed {changed : Item}
    (goes : takeToken option item passed token = .inl (changed, more)) :
    more = passed ++ (splitOption token).toList := by
  unfold takeToken at goes
  cases divided : splitOption token with
  | none => simp [divided] at goes
  | some pair =>
    simp only [divided] at goes
    split at goes <;> cases goes
    rfl

theorem takeToken_ended {last : LineEnd Item}
    (stops : takeToken option item passed token = .inr last) :
    last.passed = passed ++ (splitOption token).toList := by
  unfold takeToken at stops
  cases divided : splitOption token with
  | none =>
    simp only [divided] at stops
    cases stops
    exact (List.append_nil _).symm
  | some pair =>
    simp only [divided] at stops
    split at stops <;> cases stops <;> rfl

/-- The pairs of the tokens that are not blank, in their order. -/
def optionPairs (pieces : List Bytes) : List (Bytes × Bytes) :=
  ((pieces.map trim).filter (· != [])).filterMap splitOption

theorem optionPairs_cons (rest : List Bytes) (full : trim token ≠ []) :
    optionPairs (token :: rest) = (splitOption (trim token)).toList ++ optionPairs rest := by
  unfold optionPairs
  rw [List.map_cons, List.filter_cons, if_pos (by simpa using full), List.filterMap_cons]
  cases splitOption (trim token) <;> rfl

theorem lineEnd_passed {pieces : List Bytes}
    (ended : lineEnd option item passed pieces = some outcome) :
    ∃ taken, outcome.passed = passed ++ taken ∧ taken <+: optionPairs pieces := by
  induction pieces generalizing item passed with
  | nil =>
    cases ended
    exact ⟨[], (List.append_nil _).symm, List.nil_prefix⟩
  | cons token rest ih =>
    unfold lineEnd at ended
    split at ended
    next => cases ended
    next full =>
      rw [optionPairs_cons rest full]
      cases turn : takeToken option item passed (trim token) with
      | inl went =>
        obtain ⟨changed, more⟩ := went
        simp only [turn] at ended
        obtain ⟨taken, all, ahead⟩ := ih ended
        refine ⟨(splitOption (trim token)).toList ++ taken, ?_, ?_⟩
        · rw [all, takeToken_passed turn, List.append_assoc]
        · exact (List.prefix_append_right_inj _).mpr ahead
      | inr last =>
        simp only [turn] at ended
        cases ended
        exact ⟨_, takeToken_ended turn, List.prefix_append _ _⟩

/-! ### When it returns -/

section Accepted

variable {token : Bytes} {rest : List Bytes}

theorem takesAll_next {changed : Item}
    (goes : takeToken option item passed (trim token) = .inl (changed, more)) :
    takesAll option item (token :: rest) = takesAll option changed rest := by
  rw [takesAll]
  unfold takeToken at goes ⊢
  cases divided : splitOption (trim token) with
  | none => simp [divided] at goes
  | some pair =>
    simp only [divided] at goes ⊢
    cases answer : option item pair.1 pair.2 with
    | mk other code => cases code <;> simp_all

theorem takesAll_last {last : LineEnd Item}
    (stops : takeToken option item passed (trim token) = .inr last) :
    takesAll option item (token :: rest) = none := by
  rw [takesAll]
  unfold takeToken at stops ⊢
  cases divided : splitOption (trim token) with
  | none => rfl
  | some pair =>
    simp only [divided] at stops ⊢
    cases answer : option item pair.1 pair.2 with
    | mk other code => cases code <;> simp_all

end Accepted

theorem lineEnd_none_iff {pieces : List Bytes} :
    lineEnd option item passed pieces = none ↔
      ∃ before token after, pieces = before ++ token :: after ∧
        (takesAll option item before).isSome ∧ trim token = [] := by
  induction pieces generalizing item passed with
  | nil => simp [lineEnd]
  | cons first rest ih =>
    unfold lineEnd
    split
    next blanks => exact iff_of_true rfl ⟨[], first, rest, rfl, rfl, blanks⟩
    next full =>
      -- the blank token is not the first one, and what comes before it starts with the first
      have inside : (∃ before token after, first :: rest = before ++ token :: after ∧
          (takesAll option item before).isSome ∧ trim token = []) ↔
          ∃ before token after, rest = before ++ token :: after ∧
            (takesAll option item (first :: before)).isSome ∧ trim token = [] := by
        constructor
        · rintro ⟨before, token, after, split, accepted, blanks⟩
          cases before with
          | nil =>
            cases split
            exact absurd blanks full
          | cons head before =>
            cases split
            exact ⟨before, token, after, rfl, accepted, blanks⟩
        · rintro ⟨before, token, after, rfl, accepted, blanks⟩
          exact ⟨first :: before, token, after, rfl, accepted, blanks⟩
      rw [inside]
      cases turn : takeToken option item passed (trim first) with
      | inl went => simp only [takesAll_next turn, ih]
      | inr last => simp [takesAll_last turn]

end Parser

/-! ## `parse_one_option` -/

/-- What the resolver makes of the text of an address and of a range. -/
structure Resolver where
  host : Bytes → Option Nat
  range : Bytes → Option (Nat × Nat)

def yesno (value : Bytes) : Option Bool :=
  if sameName value (text "yes") || sameName value (text "y") || sameName value (text "true") then
    some true
  else if sameName value (text "no") || sameName value (text "n") || sameName value (text "false")
  then some false
  else none

def setBoolean (member : Bool → Setting) (_ : Resolver) (_ value : Bytes) : Setting :=
  (yesno value).elim .rejected member

def setNumber (member : Nat → Setting) (_ : Resolver) (_ value : Bytes) : Setting :=
  member (atoi value).toNat

def setString (member : Bytes → Setting) (_ : Resolver) (_ value : Bytes) : Setting :=
  member value

def setIp (member : Nat → Setting) (names : Resolver) (_ value : Bytes) : Setting :=
  (names.host value).elim .rejected member

/-- A range option; the word of a deny range starts with the letter n. -/
def setRangeOption (member : Option IpRange → Setting) (names : Resolver) (word value : Bytes) :
    Setting :=
  member ((names.range value).map fun range => ⟨range.1, range.2, word.head? ≠ some 110⟩)

def setLns (_ : Resolver) (_ value : Bytes) : Setting :=
  let port := value.dropWhile (· != 58)
  .lns ⟨(value.takeWhile (· != 58)).take strlen,
    if port = [] then udpListenPort else atoi (port.drop 1)⟩

/-- `set_papchap`, which tells the options apart by letters of the word as it was given. -/
def setPapchap (_ : Resolver) (word value : Bytes) : Setting :=
  match yesno value with
  | none => .rejected
  | some result =>
      let refuses := word.drop 2 |>.head? |> (· == some 102)
      match ((word.dropWhile (· != 32)).drop 1).head? with
      | some 112 => if refuses then .refusePap result else .requirePap result
      | some 97 => if refuses then .refuseAuthentication result else .requireAuthentication result
      | _ => if refuses then .refuseChap result else .requireChap result

/-- `set_rws`; a word in other letters sets nothing. -/
def setRws (_ : Resolver) (word value : Bytes) : Setting :=
  let size := atoi value
  match word.head? with
  | some 99 => .callRws size
  | some 116 => .tunnelRws size
  | _ => .callRws (min size (-1))

def setSpeed (_ : Resolver) (word value : Bytes) : Setting :=
  let speed := (atoi value).toNat
  match word.head? with
  | some 116 => .txBps speed
  | some 114 => .rxBps speed
  | _ => .bps speed

/-- An option of the global section, which no entry takes. -/
def setGlobal (_ : Resolver) (_ _ : Bytes) : Setting := .rejected

def words : List (String × (Resolver → Bytes → Bytes → Setting)) :=
  [("listen-addr", setGlobal),
    ("port", setGlobal),
    ("saref refinfo", setGlobal),
    ("rand source", setGlobal),
    ("auth file", setGlobal),
    ("exclusive", setBoolean .exclusive),
    ("autodial", setBoolean .autodial),
    ("redial", setBoolean .redial),
    ("redial timeout", setNumber .redialTimeout),
    ("lns", setLns),
    ("max redials", setNumber .maxRedials),
    ("access control", setGlobal),
    ("force userspace", setGlobal),
    ("ip range", setRangeOption .ipRange),
    ("no ip range", setRangeOption .ipRange),
    ("debug avp", setGlobal),
    ("debug network", setGlobal),
    ("debug packet", setGlobal),
    ("debug tunnel", setGlobal),
    ("debug state", setGlobal),
    ("ipsec saref", setGlobal),
    ("lac", setRangeOption .lac),
    ("no lac", setRangeOption .lac),
    ("assign ip", setBoolean .assignIp),
    ("local ip", setIp .localIp),
    ("local ip range", setRangeOption .localIpRange),
    ("remote ip", setIp .remoteIp),
    ("defaultroute", setBoolean .defaultroute),
    ("length bit", setBoolean .lengthBit),
    ("hidden bit", setBoolean .hiddenBit),
    ("require pap", setPapchap),
    ("require chap", setPapchap),
    ("require authentication", setPapchap),
    ("require auth", setPapchap),
    ("refuse pap", setPapchap),
    ("refuse chap", setPapchap),
    ("refuse authentication", setPapchap),
    ("refuse auth", setPapchap),
    ("unix authentication", setBoolean .unixAuthentication),
    ("unix auth", setBoolean .unixAuthentication),
    ("name", setString .name),
    ("hostname", setString .hostname),
    ("ppp debug", setBoolean .pppDebug),
    ("pass peer", setBoolean .passPeer),
    ("pppoptfile", setString .pppoptfile),
    ("call rws", setRws),
    ("tunnel rws", setRws),
    ("flow bit", setBoolean .flowBit),
    ("challenge", setBoolean .challenge),
    ("tx bps", setSpeed),
    ("rx bps", setSpeed),
    ("bps", setSpeed),
    ("max retries", setGlobal),
    ("cap backoff", setGlobal)]

/-- The keyword that a word is, in any letters. -/
def findKeyword (word : Bytes) : Option (Resolver → Bytes → Bytes → Setting) :=
  (words.find? fun keyword => sameName word (text keyword.1)).map Prod.snd

/-- `parse_one_option` in the context of the entries that `apply` is about. -/
def parseOneOption {Item : Type} (apply : Item → Setting → Item × Bool) (names : Resolver)
    (item : Item) (word value : Bytes) : Item × OptionCode :=
  match findKeyword word with
  | none => (item, .unknown)
  | some handler =>
      let (item, success) := apply item (handler names word value)
      (item, if success then .taken else .refused)

/-! ### The options that a text is -/

/-- The option that a word with its value is. -/
def readOption (names : Resolver) (word value : Bytes) : Setting :=
  (findKeyword word).elim .rejected fun handler => handler names word value

def tokenSetting (names : Resolver) (token : Bytes) : Setting :=
  (splitOption (trim token)).elim .rejected fun pair => readOption names pair.1 pair.2

def lineSettings (names : Resolver) (memory : Bytes) : List Setting :=
  (tokens 59 (string memory)).map (tokenSetting names)

section Settings

variable {Item : Type} {apply : Item → Setting → Item × Bool} {names : Resolver} {item : Item}
  {passed : List (Bytes × Bytes)}

theorem parseOneOption_setting (names : Resolver) (item : Item)
    (lost : ∀ item, apply item .rejected = (item, false)) (word value : Bytes) :
    (parseOneOption apply names item word value).1 = (apply item (readOption names word value)).1 ∧
      ((parseOneOption apply names item word value).2 = .taken ↔
        (apply item (readOption names word value)).2 = true) := by
  unfold parseOneOption readOption
  cases findKeyword word with
  | none => simp [lost]
  | some handler => cases (apply item (handler names word value)).2 <;> simp

theorem takeToken_setting (lost : ∀ item, apply item .rejected = (item, false)) (token : Bytes) :
    takeToken (parseOneOption apply names) item passed (trim token) =
      let passed := passed ++ (splitOption (trim token)).toList
      if (apply item (tokenSetting names token)).2 then
        .inl ((apply item (tokenSetting names token)).1, passed)
      else .inr ⟨false, (apply item (tokenSetting names token)).1, passed⟩ := by
  unfold takeToken tokenSetting
  cases splitOption (trim token) with
  | none => simp [lost]
  | some pair =>
    obtain ⟨word, value⟩ := pair
    obtain ⟨changed, taken⟩ := parseOneOption_setting names item lost word value
    simp only [Option.elim_some, Option.toList_some]
    cases answer : parseOneOption apply names item word value with
    | mk other code =>
      rw [answer] at changed taken
      cases code <;> simp_all

/-- `parse_one_line` does to the entry what the options of the text do to it one by one. -/
theorem parsesLine_settings (lost : ∀ item, apply item .rejected = (item, false))
    {memory : Bytes} {outcome : LineEnd Item}
    (parsed : ParsesLine (parseOneOption apply names) memory item outcome) :
    applySettings apply item (lineSettings names memory) = (outcome.item, outcome.success) := by
  rw [parsesLine_iff] at parsed
  unfold lineSettings
  generalize tokens 59 (string memory) = pieces at parsed ⊢
  generalize ([] : List (Bytes × Bytes)) = passed at parsed
  induction pieces generalizing item passed with
  | nil =>
    cases parsed
    rfl
  | cons token rest ih =>
    unfold lineEnd at parsed
    split at parsed
    next => cases parsed
    next =>
      rw [takeToken_setting lost] at parsed
      rw [List.map_cons]
      unfold applySettings
      cases success : (apply item (tokenSetting names token)).2 with
      | true =>
        simp only [success, if_true] at parsed ⊢
        exact ih _ parsed
      | false =>
        simp only [success, Bool.false_eq_true, if_false, Option.some.injEq] at parsed ⊢
        rw [← parsed]

theorem redial_line_settings : ∃ outcome,
    ParsesLine (parseOneOption Setting.applyLac ⟨fun _ => none, fun _ => none⟩)
      (text "redial=yes; max redials = 3" ++ [0]) { ref := 1 } outcome ∧
    applySettings Setting.applyLac { ref := 1 } (lineSettings ⟨fun _ => none, fun _ => none⟩
      (text "redial=yes; max redials = 3" ++ [0])) = (outcome.item, outcome.success) ∧
    outcome.item.redial = true ∧ outcome.item.rmax = 3 := by
  have ends : (lineEnd (parseOneOption Setting.applyLac ⟨fun _ => none, fun _ => none⟩)
      { ref := 1 } [] (tokens 59 (string (text "redial=yes; max redials = 3" ++ [0])))).any
      (fun outcome => outcome.item.redial = true ∧ outcome.item.rmax = 3) = true := by
    decide +kernel
  obtain ⟨outcome, ended, stored⟩ := (Option.any_eq_true _ _).mp ends
  have parsed := parsesLine_iff.mpr ended
  exact ⟨outcome, parsed, parsesLine_settings (fun _ => rfl) parsed, of_decide_eq_true stored⟩

end Settings

/-! ## Whether it returns -/

section Returns

variable {Item : Type}

/-- `parse_one_line` returns, and passes the options on in order, exactly when it comes to no blank
token. -/
theorem option_line_returns_iff (option : Item → Bytes → Bytes → Item × OptionCode)
    (memory : Bytes) (item : Item) :
    (∃ outcome, ParsesLine option memory item outcome ∧
      outcome.passed <+: optionPairs (tokens 59 (string memory))) ↔
    ∀ before token after, tokens 59 (string memory) = before ++ token :: after →
      (takesAll option item before).isSome → trim token ≠ [] := by
  constructor
  · rintro ⟨outcome, parsed, _⟩ before token after split accepted blanks
    have endless : lineEnd option item [] (tokens 59 (string memory)) = none :=
      lineEnd_none_iff.mpr ⟨before, token, after, split, accepted, blanks⟩
    rw [parsesLine_iff, endless] at parsed
    cases parsed
  · intro full
    cases ended : lineEnd option item [] (tokens 59 (string memory)) with
    | none =>
      obtain ⟨before, token, after, split, accepted, blanks⟩ := lineEnd_none_iff.mp ended
      exact absurd blanks (full before token after split accepted)
    | some outcome =>
      obtain ⟨taken, all, ahead⟩ := lineEnd_passed ended
      rw [List.nil_append] at all
      exact ⟨outcome, parsesLine_iff.mpr ended, all ▸ ahead⟩

/-- A blank behind the last semicolon, and the loop is not left. -/
theorem blank_token_hangs : ¬ ∃ outcome,
    ParsesLine (parseOneOption Setting.applyLac ⟨fun _ => none, fun _ => none⟩)
      (text "autodial=yes; " ++ [0]) { ref := 1 } outcome := by
  rintro ⟨outcome, parsed⟩
  rw [parsesLine_iff] at parsed
  have stuck : (lineEnd (parseOneOption Setting.applyLac ⟨fun _ => none, fun _ => none⟩)
      { ref := 1 } [] (tokens 59 (string (text "autodial=yes; " ++ [0])))).isNone = true := by
    decide +kernel
  rw [parsed] at stuck
  cases stuck

end Returns

end Xl2tpd
