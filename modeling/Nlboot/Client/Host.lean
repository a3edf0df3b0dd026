import Mathlib.Algebra.Group.Nat.Defs
import Mathlib.Data.List.Infix
import Nlboot.Client.Serde
import Nlboot.Lib.Act
import Nlboot.Lib.Hex
import Nlboot.Lib.Path

/-!
# What the client reads and changes

The platform under `rust/nlboot-client/src/main.rs`: libraries, files, clock, commands.

* `Host`: the functions of `serde_json`, `chrono`, `sha2` and `rsa` that the model takes as given,
  and which directory the components of a path lead to. A directory may be reached by several
  paths; a file is a name in one directory (no file is a link to another).
* `Env`: what one invocation meets: its user, the readings of the clock, which calls fail and what
  the command and the network answer. A write that fails may leave the beginning of the bytes.
* `Event`: what an invocation does. The files change by events only, so a computation of the client
  is an `Act` on `Files`.
* `readFile`, `pathExists`, `createDirAll`, `writeFile`, `println`, `invokeKexec`: the calls of
  the standard library. An error is the text of its outermost message.

Results:
* `occurs_createDirAll`, **`occurs_writeFile`**, `occurs_writeJson`: what the calls log, and where.
* `writeJson_eq_ok`: a document that was written.
-/

namespace Nlboot.Client

open Nlboot.Lib Nlboot.Lib.Path

/-- What `serde_json` finds in the bytes of a file. -/
inductive Parsed (N : Type) where
  | notUtf8
  | notJson
  | json (raw : Json N)

/-- The libraries and the directories of the machine. Times are nanoseconds. -/
structure Host (N K D : Type) where
  parse : List UInt8 → Parsed N
  num : N → List Char
  asU64 : N → Option Nat
  ofU64 : Nat → N
  timestamp : String → Option Int
  rfc3339 : Int → String
  parseFromRfc3339 : String → Except String Int
  debug : String → String
  sha256 : List UInt8 → List UInt8
  fromPublicKeyPem : String → Option K
  signatureError : List UInt8 → Option String
  verify (key : K) (payload signature : List UInt8) : Bool
  dirOf : List Component → D

/-- A name in a directory. -/
structure Location (D : Type) where
  dir : D
  name : String
  deriving DecidableEq

/-- What is found under a name. -/
inductive Entry where
  | file (bytes : List UInt8)
  | dir
  deriving DecidableEq

/-- The files and directories of the machine. -/
abbrev Files (D : Type) := Location D → Option Entry

/-- How `fs::write` ends: done, refused before anything changed, or broken off. -/
inductive WriteOutcome where
  | done
  | refused
  | broken (kept : Nat)

/-- How a command ends. -/
inductive CommandStatus where
  | notStarted
  | exited (success : Bool) (status : String)

/-- What a request answers. -/
inductive Response where
  | failed
  | status (line : String)
  | brokenBody (message : String)
  | body (bytes : List UInt8)

/-- What one invocation meets. -/
structure Env (D : Type) where
  euid : Nat
  utcNow : Nat → Int
  readable : String → Bool
  mkdirFails : Location D → Bool
  writes : Location D → WriteOutcome
  status : List String → CommandStatus
  get : String → Response

/-- Something an invocation does. -/
inductive Event (D : Type) where
  | mkdir (location : Location D)
  | write (location : Location D) (bytes : List UInt8)
  | print (text : List Char)
  | kexec (command : List String)
  deriving DecidableEq

/-- What an event makes of a location. -/
def Event.made {D : Type} : Event D → Option (Location D × Entry)
  | .mkdir location => some (location, .dir)
  | .write location bytes => some (location, .file bytes)
  | .print _ | .kexec _ => none

section

variable {N K D : Type} [DecidableEq D]

instance : Replay (Files D) (Event D) where
  apply files event := fun location =>
    match event.made with
    | some (changed, entry) => if location = changed then some entry else files location
    | none => files location

/-- A computation of the client. -/
abbrev Proc (D : Type) [DecidableEq D] (α : Type) := Act (Files D) String α

theorem apply_of_made {files : Files D} {event : Event D} {location : Location D}
    (h : ∀ entry, event.made ≠ some (location, entry)) :
    Replay.apply files event location = files location := by
  show (match event.made with
    | some (changed, entry) => if location = changed then some entry else files location
    | none => files location) = files location
  split
  · rename_i changed entry hmade
    rw [if_neg]
    rintro rfl
    exact h entry hmade
  · rfl

/-- A location keeps its entry through a log that does not change it. -/
theorem replay_of_made {log : List (Event D)} {location : Location D}
    (h : ∀ event ∈ log, ∀ entry, event.made ≠ some (location, entry)) :
    ∀ files : Files D, replay files log location = files location := by
  induction log with
  | nil => exact fun _ => rfl
  | cons event log ih =>
    intro files
    rw [replay_cons, ih fun e he => h e (List.mem_cons_of_mem event he),
      apply_of_made (h event List.mem_cons_self)]

/-- What an event makes is there. -/
theorem apply_made {files : Files D} {event : Event D} {location : Location D} {entry : Entry}
    (h : event.made = some (location, entry)) :
    Replay.apply files event location = some entry := by
  show (match event.made with
    | some (changed, entry) => if location = changed then some entry else files location
    | none => files location) = some entry
  rw [h]
  exact if_pos rfl

/-- A directory stays one through a log that makes nothing else of it. -/
theorem replay_dir {log : List (Event D)} {location : Location D}
    (h : ∀ event ∈ log, ∀ entry, event.made = some (location, entry) → entry = .dir) :
    ∀ files : Files D, files location = some .dir → replay files log location = some .dir := by
  induction log with
  | nil => exact fun _ hdir => hdir
  | cons event log ih =>
    intro files hdir
    refine ih (fun e he => h e (List.mem_cons_of_mem event he)) _ ?_
    by_cases hmade : ∃ entry, event.made = some (location, entry)
    · obtain ⟨entry, hentry⟩ := hmade
      obtain rfl := h event List.mem_cons_self entry hentry
      exact apply_made hentry
    · rw [apply_of_made fun entry hentry => hmade ⟨entry, hentry⟩, hdir]

omit [DecidableEq D] in
theorem eq_of_made_write {place location : Location D} {bytes : List UInt8} {entry : Entry}
    (h : (Event.write place bytes).made = some (location, entry)) :
    location = place ∧ entry = .file bytes := by
  obtain ⟨rfl, rfl⟩ := Prod.mk.inj (Option.some.inj h)
  exact ⟨rfl, rfl⟩

theorem apply_write {files : Files D} {location : Location D} {bytes : List UInt8} :
    Replay.apply files (.write location bytes) location = some (.file bytes) :=
  if_pos rfl

/-- What is no directory becomes none through a log that makes none of it. -/
theorem replay_ne_dir {log : List (Event D)} {location : Location D}
    (h : ∀ event ∈ log, ∀ entry, event.made = some (location, entry) → entry ≠ .dir) :
    ∀ files : Files D, files location ≠ some .dir → replay files log location ≠ some .dir := by
  induction log with
  | nil => exact fun _ hdir => hdir
  | cons event log ih =>
    intro files hdir
    refine ih (fun e he => h e (List.mem_cons_of_mem event he)) _ ?_
    by_cases hmade : ∃ entry, event.made = some (location, entry)
    · obtain ⟨entry, hentry⟩ := hmade
      rw [apply_made hentry]
      exact fun heq => h event List.mem_cons_self entry hentry (Option.some.inj heq)
    · rwa [apply_of_made fun entry hentry => hmade ⟨entry, hentry⟩]

/-- Files written at different locations are all there in the end. -/
theorem replay_writes {writes : List (Location D × List UInt8)} (h : (writes.map Prod.fst).Nodup)
    {location : Location D} {bytes : List UInt8} (hmem : (location, bytes) ∈ writes)
    (files : Files D) :
    replay files (writes.map fun w => Event.write w.1 w.2) location = some (.file bytes) := by
  obtain ⟨earlier, later, rfl⟩ := List.append_of_mem hmem
  rw [List.map_append, List.nodup_append, List.map_cons, List.nodup_cons] at h
  rw [List.map_append, replay_append, List.map_cons, replay_cons, replay_of_made, apply_write]
  intro event hevent entry hmade
  obtain ⟨⟨other, _⟩, hother, rfl⟩ := List.mem_map.mp hevent
  obtain ⟨rfl, -⟩ := Prod.mk.inj (Option.some.inj hmade)
  exact h.2.1.1 (List.mem_map.mpr ⟨_, hother, rfl⟩)

/-! ## Reading -/

/-- The location the components of a path name, if the last of them is a name. -/
def locate (host : Host N K D) (path : List Component) : Option (Location D) :=
  match path.getLast? with
  | some (.normal name) => some ⟨host.dirOf path.dropLast, name⟩
  | _ => none

omit [DecidableEq D] in
/-- A plain name joined to a directory is a location of it. -/
theorem locate_join {host : Host N K D} {base name : String} (h : Plain name) :
    locate host (components (join base name)) = some ⟨host.dirOf (components base), name⟩ := by
  rw [components_join base h, locate, List.getLast?_concat, List.dropLast_concat]

/-- `fs::read`. -/
def readFile (host : Host N K D) (env : Env D) (files : Files D) (path : String) :
    Option (List UInt8) :=
  if env.readable path then
    match (locate host (components path)).bind files with
    | some (.file bytes) => some bytes
    | _ => none
  else none

omit [DecidableEq D] in
/-- A file that is read is there under its location. -/
theorem readFile_eq_some {host : Host N K D} {env : Env D} {files : Files D} {path : String}
    {bytes : List UInt8} : readFile host env files path = some bytes ↔
      env.readable path = true ∧ ∃ location, locate host (components path) = some location ∧
        files location = some (.file bytes) := by
  unfold readFile
  by_cases hreadable : env.readable path = true
  · rw [if_pos hreadable]
    simp only [hreadable, true_and]
    cases locate host (components path) with
    | none => simp
    | some location =>
      simp only [Option.bind_some, Option.some.injEq, exists_eq_left']
      cases files location with
      | none => simp
      | some entry => cases entry <;> simp
  · rw [if_neg hreadable]
    simp [hreadable]

/-- `Path::exists`. -/
def pathExists (host : Host N K D) (env : Env D) (files : Files D) (path : String) : Bool :=
  env.readable path && ((locate host (components path)).bind files).isSome

/-- `read_json`. -/
def readJson {α : Type} (host : Host N K D) (env : Env D) (files : Files D)
    (decode : Json N → Option α) (path : String) : Except String α :=
  match readFile host env files path with
  | none => throw ("failed to read " ++ path)
  | some raw =>
    match host.parse raw with
    | .notUtf8 => throw ("failed to read " ++ path)
    | .notJson => throw ("failed to parse JSON in " ++ path)
    | .json value => orThrow ("failed to parse JSON in " ++ path) (decode value)

omit [DecidableEq D] in
/-- A document is read iff the file is there, it is JSON, and it is decoded. -/
theorem readJson_eq_ok {host : Host N K D} {env : Env D} {files : Files D} {α : Type}
    {decode : Json N → Option α} {path : String} {a : α} :
    readJson host env files decode path = .ok a ↔ ∃ raw value,
      readFile host env files path = some raw ∧ host.parse raw = .json value ∧
        decode value = some a := by
  unfold readJson
  cases readFile host env files path with
  | none => simp [throw, throwThe, MonadExceptOf.throw]
  | some raw =>
    cases hparse : host.parse raw with
    | notUtf8 => simp [throw, throwThe, MonadExceptOf.throw, hparse]
    | notJson => simp [throw, throwThe, MonadExceptOf.throw, hparse]
    | json value => simp [orThrow_eq_ok, hparse]

omit [DecidableEq D] in
theorem readFile_env {host : Host N K D} {env env' : Env D} {files : Files D}
    (h : env'.readable = env.readable) (path : String) :
    readFile host env' files path = readFile host env files path := by
  unfold readFile
  rw [h]

omit [DecidableEq D] in
theorem readJson_env {host : Host N K D} {env env' : Env D} {files : Files D}
    (h : env'.readable = env.readable) {α : Type} (decode : Json N → Option α) (path : String) :
    readJson host env' files decode path = readJson host env files decode path := by
  unfold readJson
  rw [readFile_env h]

/-- `read_value`. -/
def readValue (host : Host N K D) (env : Env D) (files : Files D) (path : String) :
    Except String (Json N) :=
  readJson host env files (fun raw => some (toValue raw)) path

/-! ## Writing -/

/-- Whether the directory a file would be written to is there. -/
def parentExists (host : Host N K D) (files : Files D) (path : List Component) : Bool :=
  match locate host path.dropLast with
  | some location => files location = some .dir
  | none => true

/-- Make the directories the prefixes of a path name, from the first one on. -/
def makeDirs (host : Host N K D) (env : Env D) (error : String) :
    List (List Component) → Proc D Unit
  | [] => pure ()
  | dir :: dirs =>
    match locate host dir with
    | none => makeDirs host env error dirs
    | some location => do
      let files ← Act.get
      match files location with
      | some .dir => makeDirs host env error dirs
      | some (.file _) => Act.fail error
      | none => do
        Act.except (check (env.mkdirFails location = false) error)
        Act.emit (.mkdir location)
        makeDirs host env error dirs

/-- `fs::create_dir_all`, with the message its error is given. -/
def createDirAll (host : Host N K D) (env : Env D) (path error : String) : Proc D Unit :=
  makeDirs host env error (components path).inits

/-- `fs::write`, with the message its error is given. -/
def writeFile (host : Host N K D) (env : Env D) (path : String) (bytes : List UInt8)
    (error : String) : Proc D Unit := do
  let files ← Act.get
  Act.except (check (parentExists host files (components path) = true) error)
  let location ← Act.except (orThrow error (locate host (components path)))
  Act.except (check (files location ≠ some .dir) error)
  match env.writes location with
  | .done => Act.emit (.write location bytes)
  | .refused => Act.fail error
  | .broken kept => do
    Act.emit (.write location (bytes.take kept))
    Act.fail error

/-- `serde_json::to_string_pretty`. -/
def toStringPretty (host : Host N K D) (value : Json N) : List Char :=
  pretty (quoted escapeMinimal) host.num 0 value

/-- The bytes `write_json` writes. -/
def jsonBytes (host : Host N K D) (value : Json N) : List UInt8 :=
  utf8 (toStringPretty host value ++ ['\n'])

/-- Make the directory of a file, as `write_json` begins. -/
def createParent (host : Host N K D) (env : Env D) (path : String) : Proc D Unit :=
  match parent path with
  | some dir => createDirAll host env dir ("failed to create " ++ dir)
  | none => pure ()

/-- `write_json`. -/
def writeJson (host : Host N K D) (env : Env D) (path : String) (value : Json N) :
    Proc D Unit := do
  createParent host env path
  writeFile host env path (jsonBytes host value) ("failed to write " ++ path)

/-- `println!`. -/
def println (text : List Char) : Proc D Unit := Act.emit (.print (text ++ ['\n']))

/-- Run `kexec` with these arguments and ask for its status; `what` names it in the errors. -/
def invokeKexec (env : Env D) (args : List String) (what : String) : Proc D Unit := do
  Act.emit (.kexec ("kexec" :: args))
  match env.status ("kexec" :: args) with
  | .notStarted => Act.fail ("failed to invoke " ++ what)
  | .exited true _ => pure ()
  | .exited false status => Act.fail (what ++ " failed with status " ++ status)

/-! ## What the calls log -/

variable {host : Host N K D} {env : Env D} {files : Files D} {before : List (Event D)}
  {event : Event D}

/-- The event makes the directory that a beginning of the path names. -/
def MakesDir (host : Host N K D) (path : List Component) (event : Event D) : Prop :=
  ∃ dir, dir <+: path ∧ ∃ location, locate host dir = some location ∧ event = .mkdir location

/-- What a write that was not refused leaves of its bytes. -/
def kept (env : Env D) (location : Location D) (bytes : List UInt8) : List UInt8 :=
  match env.writes location with
  | .broken n => bytes.take n
  | .done | .refused => bytes

/-- The event writes the bytes, or what a broken write keeps of them, to the file the path names. -/
def WritesFile (host : Host N K D) (env : Env D) (path : String) (bytes : List UInt8)
    (event : Event D) : Prop :=
  ∃ location, locate host (components path) = some location ∧
    event = .write location (kept env location bytes)

theorem occurs_makeDirs {error : String} {dirs : List (List Component)}
    (h : (makeDirs host env error dirs).Occurs files before event) :
    ∃ dir ∈ dirs, ∃ location, locate host dir = some location ∧ event = .mkdir location := by
  induction dirs generalizing files before with
  | nil => exact absurd h Act.not_occurs_pure
  | cons dir dirs ih =>
    have later : ∀ {files before}, (makeDirs host env error dirs).Occurs files before event →
        ∃ dir' ∈ dir :: dirs, ∃ location, locate host dir' = some location ∧
          event = .mkdir location := fun h => by
      obtain ⟨dir', hmem, hloc⟩ := ih h
      exact ⟨dir', List.mem_cons_of_mem dir hmem, hloc⟩
    unfold makeDirs at h
    split at h
    · exact later h
    · rename_i location hloc
      rw [Act.occurs_get_bind] at h
      split at h
      · exact later h
      · exact absurd h Act.not_occurs_fail
      · obtain ⟨_, -, h⟩ := Act.occurs_except_bind.mp h
        rcases Act.occurs_bind.mp h with h | ⟨_, _, _, -, -, h⟩
        · exact ⟨dir, List.mem_cons_self, location, hloc, (Act.occurs_emit.mp h).2⟩
        · exact later h

/-- Making directories leaves alone what is there. -/
theorem makeDirs_keeps {error : String} {location : Location D} {entry : Entry} :
    ∀ {dirs : List (List Component)} {files : Files D}, files location = some entry →
      (makeDirs host env error dirs).stateAfter files location = some entry
  | [], _, h => h
  | dir :: dirs, files, h => by
    unfold makeDirs
    cases hloc : locate host dir with
    | none => exact makeDirs_keeps h
    | some made =>
      simp only [Act.stateAfter, Act.get_bind_apply]
      cases hmade : files made with
      | some found =>
        cases found with
        | dir => exact makeDirs_keeps h
        | file _ => exact h
      | none =>
        -- The location is made only where nothing is, so it is another one.
        have hne : location ≠ made := by
          rintro rfl
          exact absurd (h.symm.trans hmade) (by simp)
        cases hfails : check (env.mkdirFails made = false) error with
        | error _ => exact h
        | ok _ =>
          have hkept : Replay.apply files (.mkdir made : Event D) location = some entry := by
            rw [apply_of_made, h]
            rintro _ heq
            exact hne (Prod.mk.inj (Option.some.inj heq)).1.symm
          exact makeDirs_keeps hkept

/-- Making directories makes no file and replaces none. -/
theorem makeDirs_file_iff {error : String} {location : Location D} {bytes : List UInt8} :
    ∀ {dirs : List (List Component)} {files : Files D},
      (makeDirs host env error dirs).stateAfter files location = some (.file bytes) ↔
        files location = some (.file bytes)
  | [], _ => Iff.rfl
  | dir :: dirs, files => by
    refine ⟨fun h => ?_, makeDirs_keeps⟩
    unfold makeDirs at h
    cases hloc : locate host dir with
    | none =>
      rw [hloc] at h
      exact makeDirs_file_iff.mp h
    | some made =>
      rw [hloc] at h
      simp only [Act.stateAfter, Act.get_bind_apply] at h
      cases hmade : files made with
      | some found =>
        rw [hmade] at h
        cases found with
        | dir => exact makeDirs_file_iff.mp h
        | file _ => exact h
      | none =>
        rw [hmade] at h
        cases hfails : check (env.mkdirFails made = false) error with
        | error _ =>
          rw [hfails] at h
          exact h
        | ok _ =>
          rw [hfails] at h
          have hfile : Replay.apply files (.mkdir made : Event D) location = some (.file bytes) :=
            makeDirs_file_iff.mp h
          rwa [apply_of_made] at hfile
          rintro _ heq
          obtain ⟨rfl, -⟩ := Prod.mk.inj (Option.some.inj heq)
          have hdir : Replay.apply files (.mkdir made : Event D) made = some .dir := if_pos rfl
          exact absurd (hfile.symm.trans hdir) (by simp)

theorem createParent_keeps {path : String} {location : Location D} {entry : Entry}
    (h : files location = some entry) :
    (createParent host env path).stateAfter files location = some entry := by
  unfold createParent
  cases parent path with
  | some dir => exact makeDirs_keeps h
  | none => exact h

theorem occurs_createDirAll {path error : String}
    (h : (createDirAll host env path error).Occurs files before event) :
    MakesDir host (components path) event := by
  obtain ⟨dir, hdir, hloc⟩ := occurs_makeDirs h
  exact ⟨dir, (List.mem_inits dir _).mp hdir, hloc⟩

/-- **`fs::write` logs a single event**, at the file it was asked to write. -/
theorem occurs_writeFile {path error : String} {bytes : List UInt8}
    (h : (writeFile host env path bytes error).Occurs files before event) :
    before = [] ∧ WritesFile host env path bytes event := by
  unfold writeFile at h
  rw [Act.occurs_get_bind] at h
  obtain ⟨_, -, h⟩ := Act.occurs_except_bind.mp h
  obtain ⟨location, hloc, h⟩ := Act.occurs_except_bind.mp h
  rw [orThrow_eq_ok] at hloc
  obtain ⟨_, -, h⟩ := Act.occurs_except_bind.mp h
  cases houtcome : env.writes location with
  | done =>
    rw [houtcome] at h
    obtain ⟨hbefore, hevent⟩ := Act.occurs_emit.mp h
    exact ⟨hbefore, location, hloc, by rw [hevent, kept, houtcome]⟩
  | refused =>
    rw [houtcome] at h
    exact absurd h Act.not_occurs_fail
  | broken n =>
    rw [houtcome] at h
    rcases Act.occurs_bind.mp h with h | ⟨_, _, _, -, -, h⟩
    · obtain ⟨hbefore, hevent⟩ := Act.occurs_emit.mp h
      exact ⟨hbefore, location, hloc, by rw [hevent, kept, houtcome]⟩
    · exact absurd h Act.not_occurs_fail

theorem writeFile_eq_ok {path error : String} {bytes : List UInt8} {u : Unit}
    {log : List (Event D)} (h : writeFile host env path bytes error files = (.ok u, log)) :
    ∃ location, locate host (components path) = some location ∧ log = [.write location bytes] := by
  unfold writeFile at h
  rw [Act.get_bind_apply] at h
  obtain ⟨_, -, h⟩ := Act.except_bind_eq_ok.mp h
  obtain ⟨location, hloc, h⟩ := Act.except_bind_eq_ok.mp h
  rw [orThrow_eq_ok] at hloc
  obtain ⟨_, -, h⟩ := Act.except_bind_eq_ok.mp h
  cases houtcome : env.writes location with
  | done =>
    rw [houtcome] at h
    exact ⟨location, hloc, (Prod.mk.inj h).2.symm⟩
  | refused =>
    rw [houtcome] at h
    exact absurd h Act.fail_ne_ok
  | broken kept =>
    rw [houtcome] at h
    obtain ⟨_, _, _, -, hfail, -⟩ := Act.bind_eq_ok.mp h
    exact absurd hfail Act.fail_ne_ok

theorem makeDirs_eq_error {error e : String} : ∀ {dirs : List (List Component)} {files : Files D}
    {log : List (Event D)}, makeDirs host env error dirs files = (.error e, log) → e = error
  | [], _, _, h => absurd (Prod.mk.inj h).1 (by simp)
  | dir :: dirs, files, log, h => by
    unfold makeDirs at h
    cases hloc : locate host dir with
    | none =>
      rw [hloc] at h
      exact makeDirs_eq_error h
    | some made =>
      rw [hloc] at h
      simp only [Act.get_bind_apply] at h
      cases hmade : files made with
      | some found =>
        rw [hmade] at h
        cases found with
        | dir => exact makeDirs_eq_error h
        | file _ => exact (Except.error.inj (Prod.mk.inj h).1).symm
      | none =>
        rw [hmade] at h
        obtain ⟨hcheck, -⟩ | ⟨_, -, h⟩ := Act.except_bind_eq_error.mp h
        · exact (check_eq_error.mp hcheck).2.symm
        · obtain h | ⟨_, _, _, -, h, -⟩ := Act.bind_eq_error.mp h
          · exact absurd (Prod.mk.inj h).1 (by simp)
          · exact makeDirs_eq_error h

theorem writeFile_eq_error {path error e : String} {bytes : List UInt8} {log : List (Event D)}
    (h : writeFile host env path bytes error files = (.error e, log)) : e = error := by
  unfold writeFile at h
  rw [Act.get_bind_apply] at h
  obtain ⟨hcheck, -⟩ | ⟨_, -, h⟩ := Act.except_bind_eq_error.mp h
  · exact (check_eq_error.mp hcheck).2.symm
  obtain ⟨hloc, -⟩ | ⟨location, -, h⟩ := Act.except_bind_eq_error.mp h
  · cases hl : locate host (components path) with
    | none =>
      rw [hl] at hloc
      exact (Except.error.inj hloc).symm
    | some location =>
      rw [hl] at hloc
      exact absurd hloc (by simp [orThrow])
  obtain ⟨hcheck, -⟩ | ⟨_, -, h⟩ := Act.except_bind_eq_error.mp h
  · exact (check_eq_error.mp hcheck).2.symm
  cases houtcome : env.writes location with
  | done =>
    rw [houtcome] at h
    exact absurd (Prod.mk.inj h).1 (by simp)
  | refused =>
    rw [houtcome] at h
    exact (Except.error.inj (Prod.mk.inj h).1).symm
  | broken n =>
    rw [houtcome] at h
    obtain h | ⟨_, _, _, -, h, -⟩ := Act.bind_eq_error.mp h
    · exact absurd (Prod.mk.inj h).1 (by simp)
    · exact (Except.error.inj (Prod.mk.inj h).1).symm

/-- Making the directory of a file makes directories its path goes through. -/
theorem occurs_createParent {path : String}
    (h : (createParent host env path).Occurs files before event) :
    MakesDir host (components path).dropLast event := by
  unfold createParent at h
  cases hdir : parent path with
  | some dir =>
    rw [hdir] at h
    have hmakes := occurs_createDirAll h
    rwa [components_parent hdir] at hmakes
  | none =>
    rw [hdir] at h
    exact absurd h Act.not_occurs_pure

theorem occurs_writeJson {path : String} {value : Json N}
    (h : (writeJson host env path value).Occurs files before event) :
    MakesDir host (components path).dropLast event ∨
      WritesFile host env path (jsonBytes host value) event := by
  unfold writeJson at h
  rcases Act.occurs_bind.mp h with h | ⟨_, _, _, -, -, h⟩
  · exact .inl (occurs_createParent h)
  · exact .inr (occurs_writeFile h).2

/-- A document that was written is the last thing the log says. -/
theorem writeJson_eq_ok {path : String} {value : Json N} {u : Unit} {log : List (Event D)}
    (h : writeJson host env path value files = (.ok u, log)) :
    ∃ dirs location, locate host (components path) = some location ∧
      log = dirs ++ [.write location (jsonBytes host value)] ∧
      (∀ event ∈ dirs, MakesDir host (components path).dropLast event) ∧
      ∀ location' entry, files location' = some entry →
        replay files dirs location' = some entry := by
  unfold writeJson at h
  obtain ⟨_, dirs, _, hdirs, hwrite, rfl⟩ := Act.bind_eq_ok.mp h
  obtain ⟨location, hloc, rfl⟩ := writeFile_eq_ok hwrite
  refine ⟨dirs, location, hloc, rfl, fun event hevent => ?_, fun location' entry hentry => ?_⟩
  · obtain ⟨before, hoccurs⟩ := Act.occurs_of_mem_log hdirs hevent
    exact occurs_createParent hoccurs
  · have hkept : (createParent host env path).stateAfter files location' = some entry :=
      createParent_keeps hentry
    rwa [Act.stateAfter, hdirs] at hkept

theorem occurs_invokeKexec {args : List String} {what : String}
    (h : (invokeKexec env args what).Occurs files before event) :
    before = [] ∧ event = .kexec ("kexec" :: args) := by
  unfold invokeKexec at h
  rcases Act.occurs_bind.mp h with h | ⟨_, _, _, -, -, h⟩
  · exact Act.occurs_emit.mp h
  · split at h
    · exact absurd h Act.not_occurs_fail
    · exact absurd h Act.not_occurs_pure
    · exact absurd h Act.not_occurs_fail

end

end Nlboot.Client
