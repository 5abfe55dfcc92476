import Xl2tpd.Lib.CString
import Xl2tpd.Reconfiguration

/-!
# The strings of the configuration

The records of the configuration hold their strings in arrays of `STRLEN` octets, which are filled
with `strncpy`. The fields of the model's entries are the octets of these arrays without the zeros
that fill them up.
-/

namespace Xl2tpd

set_option autoImplicit false

/-! ## The texts of the records -/

/-- The array that a text was copied to has a terminator. -/
def terminated (text : Bytes) : Bool := (CString.string text).length < strlen

def Lns.texts (entry : Lns) : List Bytes :=
  [entry.entname, entry.hostname, entry.authname, entry.peername, entry.pppoptfile]

def Lac.texts (entry : Lac) : List Bytes :=
  [entry.entname, entry.hostname, entry.authname, entry.password, entry.peername,
    entry.pppoptfile] ++ entry.lns.map Host.hostname

/-- The text that an option stores in an LNS entry. -/
def Setting.lnsTexts : Setting → List Bytes
  | .name value | .hostname value | .pppoptfile value => [value]
  | _ => []

/-- The text that an option stores in a LAC entry. -/
def Setting.lacTexts : Setting → List Bytes
  | .lns host => [host.hostname]
  | setting => setting.lnsTexts

/-- What the next option goes to: a section of the file, or the entry of an add request. -/
inductive Target
  | global
  | lns (lns : LnsRef)
  | lac (lac : LacRef)
  | deflac
  | lnsRequest (lns : LnsRef)
  | lacRequest (entry : Lac)
  /-- The rest of a request, which is not read. -/
  | ignored

def Target.onPipe : Target → Bool
  | .lnsRequest _ | .lacRequest _ | .ignored => true
  | _ => false

structure ConfigText where
  daemon : Daemon
  authfile : Bytes := []
  data : Option Target := none

namespace ConfigText

/-! ## The configuration file -/

/-- `new_lns`, put in front of the list. -/
def newLns (name : Bytes) (state : ConfigText) : ConfigText :=
  { state with daemon := state.daemon.pushLns name, data := some (.lns state.daemon.fresh) }

/-- `new_lac`, put in front of the list. -/
def newLac (name : Bytes) (state : ConfigText) : ConfigText :=
  let daemon := state.daemon
  { state with
    daemon := { daemon with
      fresh := daemon.fresh + 1
      laclist := { ref := daemon.fresh, entname := name.take strlen } :: daemon.laclist }
    data := some (.lac daemon.fresh) }

/-- `[lns default]`. -/
def lnsDefault (state : ConfigText) : ConfigText :=
  let daemon := state.daemon
  match daemon.deflns with
  | some entry => { state with data := some (.lns entry.ref) }
  | none =>
      { state with
        daemon := { daemon with
          fresh := daemon.fresh + 1
          deflns := some { ref := daemon.fresh, entname := text "default" } }
        data := some (.lns daemon.fresh) }

/-- `[lac default]`. -/
def lacDefault (state : ConfigText) : ConfigText :=
  let daemon := state.daemon
  match daemon.deflac with
  | some _ => { state with data := some .deflac }
  | none =>
      { state with
        daemon := { daemon with
          fresh := daemon.fresh + 1
          deflac := some { ref := daemon.fresh, entname := text "default" } }
        data := some .deflac }

/-- `[lns name]`: the entry of that name is named again. -/
def lnsNamed (name : Bytes) (state : ConfigText) : ConfigText :=
  match state.daemon.lnslist.find? fun entry => sameName entry.entname name with
  | some found =>
      { state with
        daemon := state.daemon.setLns found.ref fun entry =>
          { entry with entname := name.take strlen }
        data := some (.lns found.ref) }
  | none => state.newLns name

/-- `[lac name]`. -/
def lacNamed (name : Bytes) (state : ConfigText) : ConfigText :=
  match findLac state.daemon name with
  | some found =>
      { state with
        daemon := state.daemon.setLac found.ref fun entry =>
          { entry with entname := name.take strlen }
        data := some (.lac found.ref) }
  | none => state.newLac name

def lnsHeader (name : Option Bytes) (state : ConfigText) : ConfigText :=
  match name with
  | none => state.newLns []
  | some name =>
      if sameName name (text "default") then state.lnsDefault else state.lnsNamed name

def lacHeader (name : Option Bytes) (state : ConfigText) : ConfigText :=
  match name with
  | none => state.newLac []
  | some name =>
      if sameName name (text "default") then state.lacDefault else state.lacNamed name

/-! ## Options -/

/-- `set_authfile`. -/
def setAuthfile (value : Bytes) (state : ConfigText) : ConfigText × Bool :=
  match value, state.data with
  | _ :: _, some .global => ({ state with authfile := value.take strlen }, true)
  | _, _ => (state, false)

def setLnsEntry (ref : LnsRef) (setting : Setting) (state : ConfigText) : ConfigText × Bool :=
  (state.daemon.lns? ref).elim (state, false) fun old =>
    ({ state with daemon := state.daemon.setLns ref fun entry => (setting.applyLns entry).1 },
      (setting.applyLns old).2)

def setLacEntry (ref : LacRef) (setting : Setting) (state : ConfigText) : ConfigText × Bool :=
  (state.daemon.lac? ref).elim (state, false) fun old =>
    ({ state with daemon := state.daemon.setLac ref fun entry => (setting.applyLac entry).1 },
      (setting.applyLac old).2)

def setDeflac (setting : Setting) (state : ConfigText) : ConfigText × Bool :=
  state.daemon.deflac.elim (state, false) fun old =>
    ({ state with daemon := { state.daemon with deflac := some (setting.applyLac old).1 } },
      (setting.applyLac old).2)

def setEntry (setting : Setting) (state : ConfigText) : ConfigText × Bool :=
  match state.data with
  | some (.lns ref) | some (.lnsRequest ref) => state.setLnsEntry ref setting
  | some (.lac ref) => state.setLacEntry ref setting
  | some .deflac => state.setDeflac setting
  | some (.lacRequest old) =>
      ({ state with data := some (.lacRequest (setting.applyLac old).1) }, (setting.applyLac old).2)
  | _ => (state, false)

inductive Line
  | authFile (value : Bytes)
  | setting (setting : Setting)

def setOption (state : ConfigText) : Line → ConfigText × Bool
  | .authFile value => state.setAuthfile value
  | .setting setting => state.setEntry setting

/-- The daemon does not start with an option that is refused in its file. In an add request that
option ends the request, and an entry for a LAC is forgotten. -/
def option (line : Line) (state : ConfigText) : Option ConfigText :=
  let (changed, success) := state.setOption line
  if success then some changed
  else if state.data.any Target.onPipe then some { changed with data := some .ignored }
  else none

/-! ## The control pipe -/

/-- The LAC entry of an add request comes to the list after its options. -/
def linkLac (state : ConfigText) : ConfigText :=
  match state.data with
  | some (.lacRequest entry) =>
      { state with
        daemon := { state.daemon with laclist := entry :: state.daemon.laclist }
        data := some .ignored }
  | _ => state

/-- `control_handle_lns_add_modify`, up to its options. -/
def addLns (name : Bytes) (state : ConfigText) : ConfigText :=
  match findLnsByName state.daemon name with
  | some entry => { state with data := some (.lnsRequest entry.ref) }
  | none => { state.newLns name with data := some (.lnsRequest state.daemon.fresh) }

/-- `control_handle_lac_add_modify`, up to its options; an entry that is there is left alone. -/
def addLac (name : Bytes) (state : ConfigText) : ConfigText :=
  let daemon := state.daemon
  match findLac daemon name with
  | some _ => { state with data := some .ignored }
  | none =>
      { state with
        daemon := { daemon with fresh := daemon.fresh + 1 }
        data := some (.lacRequest { ref := daemon.fresh, entname := name.take strlen }) }

/-- `control_handle_lac_connect`, up to the dialing. -/
def connect (name : Bytes) (authname password : Option Bytes) (state : ConfigText) : ConfigText :=
  match findLac state.daemon name with
  | some found =>
      { state with
        daemon := state.daemon.setLac found.ref fun entry => entry.connect authname password
        data := some .ignored }
  | none => { state with data := some .ignored }

/-! ## Sequences -/

/-- The start of a section of the file or of a request on the control pipe. -/
inductive Part
  | global
  | lnsHeader (name : Option Bytes)
  | lacHeader (name : Option Bytes)
  | addLns (name : Bytes)
  | addLac (name : Bytes)
  | connect (name : Bytes) (authname password : Option Bytes)

def start (state : ConfigText) : Part → ConfigText
  | .global => { state with data := some .global }
  | .lnsHeader name => state.lnsHeader name
  | .lacHeader name => state.lacHeader name
  | .addLns name => state.addLns name
  | .addLac name => state.addLac name
  | .connect name authname password => state.connect name authname password

inductive Step
  | part (part : Part)
  | option (line : Line)

def step (state : ConfigText) : Step → Option ConfigText
  | .part part => some (state.linkLac.start part)
  | .option line => state.option line

def reached : ConfigText → List Step → List ConfigText
  | _, [] => []
  | state, next :: steps => ((state.step next).map fun after => after :: reached after steps).getD []

/-- The entry of an add request, which is in no list yet. -/
def added : Option Target → List Lac
  | some (.lacRequest entry) => [entry]
  | _ => []

def lacs (state : ConfigText) : List Lac :=
  state.daemon.laclist ++ state.daemon.deflac.toList ++ added state.data

def lnss (state : ConfigText) : List Lns := state.daemon.lnslist ++ state.daemon.deflns.toList

structure Terminated (state : ConfigText) : Prop where
  authfile : terminated state.authfile = true
  lnss : ∀ entry ∈ state.lnss, entry.texts.all terminated = true
  lacs : ∀ entry ∈ state.lacs, entry.texts.all terminated = true

/-! ### What a step stores -/

def headerTexts (name : Option Bytes) : List Bytes :=
  name.toList.filter fun name => !sameName name (text "default")

/-- A request for an entry that is there does not name it again. -/
def startTexts (state : ConfigText) : Part → List Bytes
  | .global => []
  | .lnsHeader name | .lacHeader name => headerTexts name
  | .addLns name => if (findLnsByName state.daemon name).isSome then [] else [name]
  | .addLac name => if (findLac state.daemon name).isSome then [] else [name]
  | .connect name authname password =>
      if (findLac state.daemon name).isSome then authname.toList ++ password.toList else []

def optionTexts (state : ConfigText) : Line → List Bytes
  | .authFile value => [value]
  | .setting setting =>
      match state.data with
      | some (.lns _) | some (.lnsRequest _) => setting.lnsTexts
      | _ => setting.lacTexts

/-- An option that is refused stores nothing. -/
def takenTexts (taken : Bool) (texts : List Bytes) : List Bytes := if taken then texts else []

def stored (state : ConfigText) : Step → List Bytes
  | .part part => state.linkLac.startTexts part
  | .option line => takenTexts (state.setOption line).2 (state.optionTexts line)

def storesShort : ConfigText → List Step → Bool
  | _, [] => true
  | state, next :: steps =>
      (state.step next).all fun after =>
        (state.stored next).all terminated && storesShort after steps

/-! ## Terminators -/

theorem terminated_take (text : Bytes) : terminated (text.take strlen) = terminated text := by
  have cut : CString.string (text.take strlen) = (CString.string text).take strlen :=
    (List.take_takeWhile ..).symm
  unfold terminated
  rw [cut, List.length_take]
  exact decide_eq_decide.mpr (by omega)

theorem applyLns_texts {entry : Lns} (setting : Setting) (before : entry.texts.all terminated = true) :
    (setting.applyLns entry).1.texts.all terminated = setting.lnsTexts.all terminated := by
  simp only [Lns.texts, List.all_cons, List.all_nil, Bool.and_true, Bool.and_eq_true] at before
  cases setting <;> simp only [Setting.applyLns, Setting.lnsTexts] <;> (try split) <;>
    simp [Lns.texts, terminated_take, before]

theorem applyLac_texts {entry : Lac} (setting : Setting) (before : entry.texts.all terminated = true) :
    (setting.applyLac entry).1.texts.all terminated = setting.lacTexts.all terminated := by
  simp only [Lac.texts, List.all_append, List.all_cons, List.all_nil, Bool.and_true,
    Bool.and_eq_true] at before
  cases setting <;> simp only [Setting.applyLac, Setting.lacTexts, Setting.lnsTexts] <;>
    (try split) <;> simp [Lac.texts, terminated_take, before]

theorem applyLns_refused {entry : Lns} {setting : Setting}
    (refused : (setting.applyLns entry).2 = false) : setting.lnsTexts = [] := by
  cases setting <;> first | rfl | cases refused

theorem applyLac_refused {entry : Lac} {setting : Setting}
    (refused : (setting.applyLac entry).2 = false) : setting.lacTexts = [] := by
  cases setting <;> first | rfl | cases refused

theorem connect_texts {entry : Lac} {authname password : Option Bytes}
    (before : entry.texts.all terminated = true) :
    (entry.connect authname password).texts.all terminated =
      (authname.toList ++ password.toList).all terminated := by
  simp only [Lac.texts, List.all_append, List.all_cons, List.all_nil, Bool.and_true,
    Bool.and_eq_true] at before
  cases authname <;> cases password <;> simp [Lac.connect, Lac.texts, terminated_take, before]

section Terminators

variable {state after : ConfigText} {name : Bytes} {texts : List Bytes}

theorem mem_lnss {entry : Lns} :
    entry ∈ state.lnss ↔ entry ∈ state.daemon.lnslist ∨ state.daemon.deflns = some entry := by
  simp [lnss]

theorem mem_lacs {entry : Lac} :
    entry ∈ state.lacs ↔ entry ∈ state.daemon.laclist ∨ state.daemon.deflac = some entry ∨
      entry ∈ added state.data := by
  simp [lacs]

/-- Every entry of a list is an old one, or holds the texts of the step and nothing else that is
new. -/
theorem terminated_list_iff {Entry : Type} {of : Entry → List Bytes} {before now : List Entry}
    (held : ∀ entry ∈ before, (of entry).all terminated = true)
    (only : ∀ entry ∈ now, entry ∈ before ∨ (of entry).all terminated = texts.all terminated)
    (hit : ∃ entry ∈ now, (of entry).all terminated = texts.all terminated) :
    (∀ entry ∈ now, (of entry).all terminated = true) ↔ texts.all terminated = true := by
  constructor
  · intro ends
    obtain ⟨entry, member, same⟩ := hit
    exact same.symm.trans (ends entry member)
  · intro short entry member
    rcases only entry member with kept | same
    · exact held entry kept
    · exact same.trans short

theorem lns_named_texts {ref : LnsRef} :
    (Lns.texts { ref := ref, entname := name.take strlen }).all terminated =
      [name].all terminated := by
  simp [Lns.texts, terminated_take, show terminated [] = true from rfl]

theorem lac_named_texts {ref : LacRef} :
    (Lac.texts { ref := ref, entname := name.take strlen }).all terminated =
      [name].all terminated := by
  simp [Lac.texts, terminated_take, show terminated [] = true from rfl]

theorem takenTexts_of {taken : Bool} (refused : taken = false → texts = []) :
    takenTexts taken texts = texts := by
  cases taken with
  | true => rfl
  | false => exact (refused rfl).symm

section

variable (before : state.Terminated)

include before

section

variable {daemon : Daemon} {data : Option Target} (kept : added data ⊆ added state.data)

include kept

theorem lacs_kept (laclist : daemon.laclist = state.daemon.laclist)
    (deflac : daemon.deflac = state.daemon.deflac) :
    ∀ entry ∈ lacs { state with daemon := daemon, data := data },
      entry.texts.all terminated = true := by
  intro entry member
  rw [mem_lacs, laclist, deflac] at member
  exact before.lacs entry (mem_lacs.mpr (member.imp_right (Or.imp_right (@kept entry))))

theorem data_terminated : Terminated { state with data := data } :=
  ⟨before.authfile, before.lnss, lacs_kept before kept rfl rfl⟩

theorem setLns_terminated_iff {ref : LnsRef} {old : Lns} {change : Lns → Lns}
    (found : state.daemon.lns? ref = some old)
    (turns : ∀ entry ∈ state.lnss, (change entry).texts.all terminated = texts.all terminated) :
    Terminated { state with daemon := state.daemon.setLns ref change, data := data } ↔
      texts.all terminated = true := by
  refine Iff.trans ⟨Terminated.lnss, fun lnss =>
    ⟨before.authfile, lnss, lacs_kept before kept rfl rfl⟩⟩ (terminated_list_iff before.lnss ?_ ?_)
  · intro entry member
    obtain ⟨first, known, rfl | rfl⟩ := mem_setLns member
    · exact .inl known
    · exact .inr (turns first known)
  · refine ⟨change old, mem_lnss.mpr ?_, turns old (Keyed.find_mem found)⟩
    have named := Keyed.find_key found
    unfold Daemon.lns? at found
    rw [Keyed.find_append, Option.or_eq_some_iff] at found
    rcases found with listed | ⟨_, default⟩
    · obtain ⟨front, back, _, updated⟩ := Keyed.find_split listed
      exact .inl (by simp [Daemon.setLns, updated])
    · have known : state.daemon.deflns = some old := by
        simpa using Keyed.find_mem default
      exact .inr (by simp [Daemon.setLns, known, named])

theorem setLac_terminated_iff {ref : LacRef} {old : Lac} {change : Lac → Lac}
    (found : state.daemon.lac? ref = some old)
    (turns : ∀ entry ∈ state.lacs, (change entry).texts.all terminated = texts.all terminated) :
    Terminated { state with daemon := state.daemon.setLac ref change, data := data } ↔
      texts.all terminated = true := by
  refine Iff.trans ⟨Terminated.lacs, fun lacs => ⟨before.authfile, before.lnss, lacs⟩⟩
    (terminated_list_iff before.lacs ?_ ?_)
  · intro entry member
    rcases mem_lacs.mp member with listed | default | request
    · rcases Keyed.mem_update listed with same | ⟨first, known, rfl⟩
      · exact .inl (mem_lacs.mpr (.inl same))
      · exact .inr (turns first (mem_lacs.mpr (.inl (Keyed.find_mem known))))
    · exact .inl (mem_lacs.mpr (.inr (.inl default)))
    · exact .inl (mem_lacs.mpr (.inr (.inr (kept request))))
  · refine ⟨change old, mem_lacs.mpr (.inl ?_),
      turns old (mem_lacs.mpr (.inl (Keyed.find_mem found)))⟩
    obtain ⟨front, back, _, updated⟩ := Keyed.find_split found
    simp [Daemon.setLac, updated]

theorem newLns_terminated_iff :
    Terminated { state.newLns name with data := data } ↔ [name].all terminated = true := by
  refine Iff.trans ⟨Terminated.lnss, fun lnss =>
    ⟨before.authfile, lnss, lacs_kept before kept rfl rfl⟩⟩ (terminated_list_iff before.lnss ?_ ?_)
  · intro entry member
    rcases List.mem_cons.mp member with rfl | old
    · exact .inr lns_named_texts
    · exact .inl old
  · exact ⟨_, List.mem_cons_self, lns_named_texts⟩

end

/-- A new LAC entry, in the list or still in its request. -/
theorem newLac_terminated_iff (authfile : after.authfile = state.authfile)
    (lnss : after.lnss = state.lnss)
    (made : ∀ entry, entry ∈ after.lacs ↔
      entry = { ref := state.daemon.fresh, entname := name.take strlen } ∨
        entry ∈ state.daemon.laclist ∨ state.daemon.deflac = some entry) :
    after.Terminated ↔ [name].all terminated = true := by
  refine Iff.trans ⟨Terminated.lacs, fun lacs =>
    ⟨authfile ▸ before.authfile, lnss ▸ before.lnss, lacs⟩⟩ (terminated_list_iff before.lacs ?_ ?_)
  · intro entry member
    rcases (made entry).mp member with rfl | old
    · exact .inr lac_named_texts
    · exact .inl (mem_lacs.mpr (old.imp_right .inl))
  · exact ⟨_, (made _).mpr (.inl rfl), lac_named_texts⟩

theorem lnsDefault_terminated : state.lnsDefault.Terminated := by
  cases found : state.daemon.deflns with
  | some entry =>
    simp only [lnsDefault, found]
    exact data_terminated before (List.nil_subset _)
  | none =>
    simp only [lnsDefault, found]
    refine ⟨before.authfile, fun entry member => ?_,
      lacs_kept before (List.nil_subset _) rfl rfl⟩
    rcases mem_lnss.mp member with listed | default
    · exact before.lnss entry (mem_lnss.mpr (.inl listed))
    · cases default
      rfl

theorem lacDefault_terminated : state.lacDefault.Terminated := by
  cases found : state.daemon.deflac with
  | some entry =>
    simp only [lacDefault, found]
    exact data_terminated before (List.nil_subset _)
  | none =>
    simp only [lacDefault, found]
    refine ⟨before.authfile, before.lnss, fun entry member => ?_⟩
    rcases mem_lacs.mp member with listed | default | request
    · exact before.lacs entry (mem_lacs.mpr (.inl listed))
    · cases default
      rfl
    · cases request

theorem lnsNamed_terminated_iff :
    (state.lnsNamed name).Terminated ↔ [name].all terminated = true := by
  unfold lnsNamed
  split
  case h_1 found known =>
    have listed := List.mem_of_find?_eq_some known
    obtain ⟨first, here⟩ := Keyed.find_isSome (List.mem_append_left state.daemon.deflns.toList listed)
      (rfl : found.ref = found.ref)
    refine setLns_terminated_iff before (List.nil_subset _) here fun entry member => ?_
    have held := before.lnss entry member
    simp only [Lns.texts, List.all_cons, List.all_nil, Bool.and_true, Bool.and_eq_true] at held
    simp [Lns.texts, terminated_take, held]
  case h_2 => exact newLns_terminated_iff before (List.nil_subset _)

theorem lacNamed_terminated_iff :
    (state.lacNamed name).Terminated ↔ [name].all terminated = true := by
  unfold lacNamed
  split
  case h_1 found known =>
    obtain ⟨first, here⟩ := Keyed.find_isSome (List.mem_of_find?_eq_some known)
      (rfl : found.ref = found.ref)
    refine setLac_terminated_iff before (List.nil_subset _) here fun entry member => ?_
    have held := before.lacs entry member
    simp only [Lac.texts, List.all_append, List.all_cons, List.all_nil, Bool.and_true,
      Bool.and_eq_true] at held
    simp [Lac.texts, terminated_take, held]
  case h_2 =>
    exact newLac_terminated_iff before rfl rfl fun entry => by simp [mem_lacs, newLac, added, or_assoc]

theorem lnsHeader_terminated_iff (given : Option Bytes) :
    (state.lnsHeader given).Terminated ↔ (headerTexts given).all terminated = true := by
  cases given with
  | none =>
    have made : (state.newLns []).Terminated :=
      (newLns_terminated_iff before (List.nil_subset _)).mpr rfl
    exact iff_of_true made rfl
  | some name =>
    by_cases default : sameName name (text "default") = true
    · simpa [lnsHeader, headerTexts, default] using lnsDefault_terminated before
    · simpa [lnsHeader, headerTexts, default] using lnsNamed_terminated_iff before

theorem lacHeader_terminated_iff (given : Option Bytes) :
    (state.lacHeader given).Terminated ↔ (headerTexts given).all terminated = true := by
  cases given with
  | none =>
    have made : (state.newLac []).Terminated ↔ [[]].all terminated = true :=
      newLac_terminated_iff before rfl rfl fun entry => by
        simp [mem_lacs, newLac, added, or_assoc]
    exact iff_of_true (made.mpr rfl) rfl
  | some name =>
    by_cases default : sameName name (text "default") = true
    · simpa [lacHeader, headerTexts, default] using lacDefault_terminated before
    · simpa [lacHeader, headerTexts, default] using lacNamed_terminated_iff before

theorem addLns_terminated_iff :
    (state.addLns name).Terminated ↔
      (state.startTexts (.addLns name)).all terminated = true := by
  cases found : findLnsByName state.daemon name with
  | some entry =>
    simp only [addLns, startTexts, found]
    exact iff_of_true (data_terminated before (List.nil_subset _)) rfl
  | none =>
    simp only [addLns, startTexts, found]
    exact newLns_terminated_iff before (List.nil_subset _)

theorem addLac_terminated_iff :
    (state.addLac name).Terminated ↔
      (state.startTexts (.addLac name)).all terminated = true := by
  cases found : findLac state.daemon name with
  | some entry =>
    simp only [addLac, startTexts, found]
    exact iff_of_true (data_terminated before (List.nil_subset _)) rfl
  | none =>
    simp only [addLac, startTexts, found]
    exact newLac_terminated_iff before rfl rfl fun entry => by
      simp [mem_lacs, added, or_comm, or_assoc]

theorem connect_terminated_iff (authname password : Option Bytes) :
    (state.connect name authname password).Terminated ↔
      (state.startTexts (.connect name authname password)).all terminated = true := by
  cases found : findLac state.daemon name with
  | none =>
    simp only [connect, startTexts, found]
    exact iff_of_true (data_terminated before (List.nil_subset _)) rfl
  | some known =>
    simp only [connect, startTexts, found, Option.isSome_some, if_true]
    obtain ⟨first, here⟩ := Keyed.find_isSome (List.mem_of_find?_eq_some found)
      (rfl : known.ref = known.ref)
    exact setLac_terminated_iff before (List.nil_subset _) here fun entry member =>
      connect_texts (before.lacs entry member)

theorem start_terminated_iff (part : Part) :
    (state.start part).Terminated ↔ (state.startTexts part).all terminated = true := by
  cases part with
  | global => exact iff_of_true (data_terminated before (List.nil_subset _)) rfl
  | lnsHeader name => exact lnsHeader_terminated_iff before name
  | lacHeader name => exact lacHeader_terminated_iff before name
  | addLns name => exact addLns_terminated_iff before
  | addLac name => exact addLac_terminated_iff before
  | connect name authname password => exact connect_terminated_iff before authname password

theorem linkLac_terminated : state.linkLac.Terminated := by
  unfold linkLac
  split
  case h_1 entry data =>
    refine ⟨before.authfile, before.lnss, fun other member => before.lacs other ?_⟩
    rw [mem_lacs, data]
    rcases mem_lacs.mp member with listed | default | request
    · rcases List.mem_cons.mp listed with rfl | old
      · exact .inr (.inr List.mem_cons_self)
      · exact .inl old
    · exact .inr (.inl default)
    · cases request
  case h_2 => exact before

theorem setLnsEntry_terminated_iff (ref : LnsRef) (setting : Setting) :
    (state.setLnsEntry ref setting).1.Terminated ↔
      (takenTexts (state.setLnsEntry ref setting).2 setting.lnsTexts).all terminated = true := by
  unfold setLnsEntry
  cases found : state.daemon.lns? ref with
  | none => exact iff_of_true before rfl
  | some old =>
    rw [Option.elim_some, takenTexts_of applyLns_refused]
    exact setLns_terminated_iff before (List.Subset.refl _) found fun entry member =>
      applyLns_texts setting (before.lnss entry member)

theorem setLacEntry_terminated_iff (ref : LacRef) (setting : Setting) :
    (state.setLacEntry ref setting).1.Terminated ↔
      (takenTexts (state.setLacEntry ref setting).2 setting.lacTexts).all terminated = true := by
  unfold setLacEntry
  cases found : state.daemon.lac? ref with
  | none => exact iff_of_true before rfl
  | some old =>
    rw [Option.elim_some, takenTexts_of applyLac_refused]
    exact setLac_terminated_iff before (List.Subset.refl _) found fun entry member =>
      applyLac_texts setting (before.lacs entry member)

theorem setDeflac_terminated_iff (setting : Setting) :
    (state.setDeflac setting).1.Terminated ↔
      (takenTexts (state.setDeflac setting).2 setting.lacTexts).all terminated = true := by
  unfold setDeflac
  cases found : state.daemon.deflac with
  | none => exact iff_of_true before rfl
  | some old =>
    have turns := applyLac_texts setting (before.lacs old (mem_lacs.mpr (.inr (.inl found))))
    rw [Option.elim_some, takenTexts_of applyLac_refused]
    refine Iff.trans ⟨Terminated.lacs, fun lacs => ⟨before.authfile, before.lnss, lacs⟩⟩
      (terminated_list_iff before.lacs (fun entry member => ?_)
        ⟨_, mem_lacs.mpr (.inr (.inl rfl)), turns⟩)
    rcases mem_lacs.mp member with listed | default | request
    · exact .inl (mem_lacs.mpr (.inl listed))
    · cases default
      exact .inr turns
    · exact .inl (mem_lacs.mpr (.inr (.inr request)))

theorem request_terminated_iff {old : Lac} (data : state.data = some (.lacRequest old))
    (setting : Setting) :
    Terminated { state with data := some (.lacRequest (setting.applyLac old).1) } ↔
      (takenTexts (setting.applyLac old).2 setting.lacTexts).all terminated = true := by
  have request : old ∈ state.lacs := mem_lacs.mpr (.inr (.inr (data ▸ List.mem_cons_self)))
  have turns := applyLac_texts setting (before.lacs old request)
  rw [takenTexts_of applyLac_refused]
  refine Iff.trans ⟨Terminated.lacs, fun lacs => ⟨before.authfile, before.lnss, lacs⟩⟩
    (terminated_list_iff before.lacs (fun entry member => ?_)
      ⟨_, mem_lacs.mpr (.inr (.inr List.mem_cons_self)), turns⟩)
  rcases mem_lacs.mp member with listed | default | added
  · exact .inl (mem_lacs.mpr (.inl listed))
  · exact .inl (mem_lacs.mpr (.inr (.inl default)))
  · rw [List.mem_singleton.mp added]
    exact .inr turns

theorem setOption_terminated_iff (line : Line) :
    (state.setOption line).1.Terminated ↔
      (state.stored (.option line)).all terminated = true := by
  unfold stored setOption
  cases line with
  | authFile value =>
    simp only [optionTexts]
    unfold setAuthfile
    split
    case h_1 =>
      refine Iff.trans ⟨Terminated.authfile, fun short => ⟨short, before.lnss, before.lacs⟩⟩ ?_
      simp [takenTexts, terminated_take]
    case h_2 => exact iff_of_true before rfl
  | setting setting =>
    simp only [optionTexts]
    unfold setEntry
    split
    case h_1 ref data => rw [data]; exact setLnsEntry_terminated_iff before ref setting
    case h_2 ref data => rw [data]; exact setLnsEntry_terminated_iff before ref setting
    case h_3 ref data => rw [data]; exact setLacEntry_terminated_iff before ref setting
    case h_4 data => rw [data]; exact setDeflac_terminated_iff before setting
    case h_5 old data => rw [data]; exact request_terminated_iff before data setting
    case h_6 => exact iff_of_true before rfl

theorem step_terminated_iff {next : Step} (ran : state.step next = some after) :
    after.Terminated ↔ (state.stored next).all terminated = true := by
  cases next with
  | part part =>
    cases ran
    exact start_terminated_iff (linkLac_terminated before) part
  | option line =>
    have changed := setOption_terminated_iff before line
    unfold step option at ran
    dsimp only at ran
    by_cases taken : (state.setOption line).2 = true
    · rw [if_pos taken] at ran
      cases ran
      exact changed
    · have nothing : state.stored (.option line) = [] := by
        rw [Bool.not_eq_true] at taken
        simp only [stored, taken]
        rfl
      rw [nothing] at changed ⊢
      rw [if_neg taken] at ran
      split at ran
      · cases ran
        exact iff_of_true (data_terminated (changed.mpr rfl) (List.nil_subset _)) rfl
      · cases ran

end

end Terminators

/-- The arrays keep their terminators exactly when every text that is stored is shorter than its
array. -/
theorem config_terminated_iff (start : ConfigText) (steps : List Step) (before : start.Terminated) :
    (∀ state ∈ start.reached steps, state.Terminated) ↔ start.storesShort steps = true := by
  induction steps generalizing start with
  | nil => exact iff_of_true (List.forall_mem_nil _) rfl
  | cons next steps ih =>
    unfold reached storesShort
    cases ran : start.step next with
    | none => exact iff_of_true (List.forall_mem_nil _) rfl
    | some after =>
      have here := step_terminated_iff before ran
      simp only [Option.map_some, Option.getD_some, Option.all_some, List.forall_mem_cons,
        Bool.and_eq_true]
      rw [here]
      exact and_congr_right fun short => ih after (here.mpr short)

/-- `init_config`: there is an entry for the default LAC. -/
def sampleStart : ConfigText := { daemon := { deflac := some { ref := 0 }, fresh := 1 } }

theorem sampleStart_terminated : sampleStart.Terminated :=
  ⟨by decide, by decide, by decide⟩

/-- The option that the first request does not take leaves the second one as it is. -/
theorem config_terminated_sample :
    sampleStart.Terminated ∧
      ∀ state ∈ sampleStart.reached [.part (.addLns [97]), .option (.authFile [98]),
        .part (.addLns [99]), .option (.setting (.name [98, 99]))], state.Terminated :=
  ⟨sampleStart_terminated, (config_terminated_iff sampleStart _ sampleStart_terminated).mpr rfl⟩

/-- A name of a hundred octets fills its array. -/
theorem long_name_unterminated :
    ¬ ∀ state ∈ sampleStart.reached [.part (.lacHeader (some [97])),
      .option (.setting (.name (List.replicate 100 98)))], state.Terminated := by
  intro ends
  have last := (ends _ (List.mem_cons_of_mem _ List.mem_cons_self)).lacs _ List.mem_cons_self
  revert last
  decide

/-! ## The handlers of the control pipe -/

/-- The options of an add request, one after another. -/
def options (state : ConfigText) (settings : List Setting) : ConfigText :=
  settings.foldl (fun state setting => (state.option (.setting setting)).getD state) state

section Handlers

open Program

variable {env : Env} {state : ConfigText} {name : Bytes} {settings : List Setting}

theorem options_ignored (data : state.data = some .ignored) : state.options settings = state := by
  induction settings with
  | nil => rfl
  | cons setting rest ih =>
    have skipped : state.option (.setting setting) = some state := by
      simp only [option, setOption, setEntry, data, Option.any_some, Target.onPipe]
      rw [← data]
      rfl
    unfold options at ih ⊢
    rw [List.foldl_cons, skipped]
    exact ih

theorem options_cons {changed : ConfigText} {setting : Setting} {taken : Bool}
    (pipe : state.data.any Target.onPipe = true)
    (next : state.setOption (.setting setting) = (changed, taken)) :
    state.options (setting :: settings) =
      if taken then changed.options settings else { changed with data := some .ignored } := by
  have first : state.option (.setting setting) =
      some (if taken then changed else { changed with data := some .ignored }) := by
    simp only [option, next, pipe]
    cases taken <;> rfl
  have whole : state.options (setting :: settings) =
      ((state.option (.setting setting)).getD state).options settings := rfl
  rw [whole, first, Option.getD_some]
  cases taken with
  | true => rfl
  | false => exact options_ignored rfl

/-- A write that is the same on the entry of a reference is the same write. -/
theorem setLns_congr {daemon : Daemon} {ref : LnsRef} {old : Lns} {change second : Lns → Lns}
    (apart : daemon.LnsApart) (found : daemon.lns? ref = some old)
    (same : change old = second old) : daemon.setLns ref change = daemon.setLns ref second := by
  have only : ∀ entry ∈ daemon.lnslist ++ daemon.deflns.toList, entry.ref = ref → entry = old := by
    rintro entry member rfl
    exact Option.some.inj ((Keyed.find_of_mem apart.distinct member).symm.trans found)
  have list : Keyed.update Lns.ref ref change daemon.lnslist =
      Keyed.update Lns.ref ref second daemon.lnslist := by
    refine Keyed.update_congr fun entry found => ?_
    rw [only entry (List.mem_append_left _ (Keyed.find_mem found)) (Keyed.find_key found), same]
  have default : (daemon.deflns.map fun entry => if entry.ref = ref then change entry else entry) =
      daemon.deflns.map fun entry => if entry.ref = ref then second entry else entry := by
    refine Option.map_congr fun entry found => ?_
    by_cases named : entry.ref = ref
    · rw [if_pos named, if_pos named, only entry (by simp [Option.mem_def.mp found]) named, same]
    · rw [if_neg named, if_neg named]
  unfold Daemon.setLns
  rw [list, default]

theorem setLns_setLns {daemon : Daemon} {ref : LnsRef} {change second : Lns → Lns}
    (keeps : ∀ entry, (change entry).ref = entry.ref) :
    (daemon.setLns ref change).setLns ref second = daemon.setLns ref (second ∘ change) := by
  unfold Daemon.setLns
  simp only [Keyed.update_update keeps, Option.map_map]
  congr 2
  funext entry
  by_cases named : entry.ref = ref <;> simp [named, keeps]

theorem lns_options {ref : LnsRef} {old : Lns} (data : state.data = some (.lnsRequest ref))
    (apart : state.daemon.LnsApart) (found : state.daemon.lns? ref = some old) :
    (state.options settings).daemon = state.daemon.setLns ref fun entry =>
      (applySettings Setting.applyLns entry settings).1 := by
  induction settings generalizing state old with
  | nil =>
    have same : state.daemon.setLns ref id = state.daemon := by
      simp [Daemon.setLns, Keyed.update_id]
    exact same.symm
  | cons setting rest ih =>
    have keeps := fun entry => applyLns_ref entry setting
    let changed : ConfigText := { state with
      daemon := state.daemon.setLns ref fun entry => (setting.applyLns entry).1 }
    have next : state.setOption (.setting setting) = (changed, (setting.applyLns old).2) := by
      simp only [setOption, setEntry, data, setLnsEntry, found, Option.elim_some, changed]
    rw [options_cons (by rw [data]; rfl) next]
    by_cases taken : (setting.applyLns old).2 = true
    · have sameRefs : changed.daemon.lnsRefs = state.daemon.lnsRefs := lnsRefs_setLns keeps
      have stillApart : changed.daemon.LnsApart :=
        ⟨(congrArg List.Nodup sameRefs).mpr apart.distinct⟩
      have stillData : changed.data = some (.lnsRequest ref) := data
      have stillFound : changed.daemon.lns? ref = some (setting.applyLns old).1 := by
        rw [lns_setLns keeps, if_pos rfl, found, Option.map_some]
      rw [if_pos taken]
      refine (ih stillData stillApart stillFound).trans ((setLns_setLns keeps).trans (setLns_congr apart found ?_))
      simp [applySettings, taken]
    · rw [if_neg taken]
      refine setLns_congr apart found ?_
      simp [applySettings, taken]

/-- `control_handle_lns_add_modify` is the request and its options. -/
theorem lns_request_handler (apart : state.daemon.LnsApart)
    (unused : state.daemon.fresh ∉ state.daemon.lnsRefs) :
    controlHandleLnsAddModify name settings state.daemon =
      .ok () ((state.addLns name).options settings).daemon := by
  cases known : findLnsByName state.daemon name with
  | some entry =>
    have found := Keyed.find_of_mem apart.distinct (found_listed known)
    have data : (state.addLns name).data = some (.lnsRequest entry.ref) := by
      simp only [addLns, known]
    have daemon : (state.addLns name).daemon = state.daemon := by simp only [addLns, known]
    rw [lns_request_found apart known, lns_options data (daemon ▸ apart) (daemon ▸ found), daemon]
  | none =>
    have data : (state.addLns name).data = some (.lnsRequest state.daemon.fresh) := by
      simp only [addLns, known]
    have daemon : (state.addLns name).daemon = state.daemon.pushLns name := by
      simp only [addLns, known, newLns]
    have pushed : (state.daemon.pushLns name).LnsApart :=
      ⟨List.nodup_cons.mpr ⟨unused, apart.distinct⟩⟩
    rw [lns_request_new known, lns_options data (daemon ▸ pushed) (daemon ▸ pushLns_found), daemon]

theorem lac_options {entry : Lac} (data : state.data = some (.lacRequest entry)) :
    state.options settings =
      { state with data := some (if (applySettings Setting.applyLac entry settings).2 then
        .lacRequest (applySettings Setting.applyLac entry settings).1 else .ignored) } := by
  induction settings generalizing state entry with
  | nil => exact congrArg (fun data => { state with data := data }) data
  | cons setting rest ih =>
    have next : state.setOption (.setting setting) =
        ({ state with data := some (.lacRequest (setting.applyLac entry).1) },
          (setting.applyLac entry).2) := by
      simp only [setOption, setEntry, data]
    rw [options_cons (by rw [data]; rfl) next]
    by_cases taken : (setting.applyLac entry).2 = true
    · rw [if_pos taken, ih rfl]
      simp [applySettings, taken]
    · simp [applySettings, taken]

/-- `control_handle_lac_add_modify` is the request, its options and the link, before it dials. -/
theorem lac_request_handler (unknown : findLac state.daemon name = none) :
    controlHandleLacAddModify env name settings state.daemon =
      whenever (applySettings Setting.applyLac
          { ref := state.daemon.fresh, entname := name.take strlen } settings).2
        (autodialEntry env state.daemon.fresh)
        ((state.addLac name).options settings).linkLac.daemon := by
  have started : state.addLac name = { state with
      daemon := { state.daemon with fresh := state.daemon.fresh + 1 }
      data := some (.lacRequest
        { ref := state.daemon.fresh, entname := name.take strlen }) } := by
    simp only [addLac, unknown]
  unfold controlHandleLacAddModify
  rw [bind_get, unknown, started, lac_options rfl]
  simp only
  rw [bind_run (allocate_run state.daemon)]
  cases (applySettings Setting.applyLac { ref := state.daemon.fresh, entname := name.take strlen }
    settings).2 <;> rfl

/-- `control_handle_lac_connect` is the request, before it dials. -/
theorem connect_handler {authname password : Option Bytes} {found : Lac}
    (known : findLac state.daemon name = some found) :
    controlHandleLacConnect env name authname password state.daemon =
      dialEntry env found.ref
        { (state.connect name authname password).daemon with switchIo := true } := by
  obtain ⟨first, here⟩ := Keyed.find_isSome (List.mem_of_find?_eq_some known)
    (rfl : found.ref = found.ref)
  have same : findLac { state.daemon with switchIo := true } name = some found := known
  have written : writeLac found.ref (fun entry => entry.connect authname password)
      { state.daemon with switchIo := true } =
        .ok () { (state.connect name authname password).daemon with switchIo := true } := by
    rw [connect, known]
    exact bind_run (deref_ok.mpr ⟨here, rfl⟩)
  have entered : (modify fun state => { state with switchIo := true } : Prog Unit) state.daemon =
      .ok () { state.daemon with switchIo := true } := rfl
  unfold controlHandleLacConnect
  rw [bind_run entered, bind_get, same]
  exact bind_run written

end Handlers

end ConfigText

end Xl2tpd
