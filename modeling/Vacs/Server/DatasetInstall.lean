import Vacs.Foundations.GuardedRuns
import Vacs.Keybinds.PortalListener

/-!
# Installing a dataset

The server keeps the coverage dataset in a directory, next to a version file that names the
commit it was downloaded for. A new dataset is downloaded and loaded first; then the old
directory is renamed to a backup, the new one is renamed into its place, and the version file
is written. At startup the server compares the version file with the deployed commit to see
whether it has to download anything.

Every call to the file system may fail, a removal or a write also half way, and the process
may die between any two of them. One install by itself leaves the old dataset, or the new one
(`install_settles`): the old one is out of its place only between the two renames, or when the
second one and the renaming back have both failed, and then it is whole in the backup. As long
as installs do not overlap, the version file names the commit of the dataset it lies next to,
so that a skipped download is one that was not needed, and a running server serves the dataset
on the disk unless the last install could not finish its bookkeeping (`version_file_names`).
-/

set_option autoImplicit false

namespace Vacs

namespace Dataset

open GuardedRuns

/-- A directory with a dataset, and the contents of its version file. -/
structure Directory (Data : Type) where
  dataset : Data
  versionFile : Option (List Char)
deriving DecidableEq

/-- The next call of an install to the file system. -/
inductive Stage where
  | findBackup
  | removeStaleBackup
  | findCurrent
  /-- Rename the current directory to the backup. -/
  | moveAside
  /-- Rename the new directory to the current one. -/
  | moveOver
  /-- Rename the backup to the current directory. -/
  | rollBack
  /-- Rename the new directory, where there was no current one. -/
  | moveIn
  | removeBackup
  | saveSha
deriving DecidableEq

inductive Purpose where
  | startup
  | reload
deriving DecidableEq

/-- A downloaded dataset that has been loaded, on its way to the coverage directory. -/
structure Install (Data Network : Type) where
  purpose : Purpose
  commitSha : List Char
  source : Directory Data
  network : Network
  stage : Stage
deriving DecidableEq

/-- How a call to the file system ends. A removal that fails may leave a part of the
directory, and a write that fails a part of the text. -/
inductive Outcome (Data : Type) where
  | ok
  | failed
  | leaves (remains : Directory Data)
  | wrote (length : ℕ)
deriving DecidableEq

inductive Phase (Network : Type) where
  | down
  /-- The deployed commit is to be downloaded. -/
  | starting (deployed : List Char)
  | running (network : Network)
deriving DecidableEq

structure Server (Data Network : Type) where
  coverageDir : Option (Directory Data)
  backup : Option (Directory Data)
  phase : Phase Network
  installs : List (Install Data Network)
  /-- The datasets that were downloaded, with the commits they were downloaded for. -/
  downloaded : List (List Char × Data)
  /-- Since the dataset in memory was loaded or installed, an install has failed or was cut off
  after it had moved a directory. -/
  unfinished : Bool

/-- Where the old directory and the new one are at a stage. -/
inductive Place where
  | kept
  | aside
  | placed

def Stage.place : Stage → Place
  | .findBackup => .kept
  | .removeStaleBackup => .kept
  | .findCurrent => .kept
  | .moveAside => .kept
  | .moveOver => .aside
  | .rollBack => .aside
  | .moveIn => .kept
  | .removeBackup => .placed
  | .saveSha => .placed

namespace Server

variable {Data Network : Type}

def localSha (self : Server Data Network) : Option (List Char) :=
  ((self.coverageDir.bind Directory.versionFile).map Keybinds.trim).filter fun sha => !sha.isEmpty

/-- Load the dataset that is on the disk. Without one the server does not start. -/
def loadFromDisk (load : Data → Option Network) (self : Server Data Network) :
    Server Data Network :=
  match self.coverageDir.bind fun directory => load directory.dataset with
  | some network => { self with phase := .running network, unfinished := false }
  | none => { self with phase := .down }

/-- What an install does next. -/
inductive Progress (Data Network : Type) where
  | next (stage : Stage)
  | installed
  | failed
deriving DecidableEq

/-- One call to the file system. A directory is renamed only to a name that is free. -/
def call (self : Server Data Network) (install : Install Data Network) (outcome : Outcome Data) :
    Server Data Network × Progress Data Network :=
  match install.stage with
  | .findBackup =>
      (self, .next (if self.backup.isSome then .removeStaleBackup else .findCurrent))
  | .removeStaleBackup =>
      match outcome with
      | .ok => ({ self with backup := none }, .next .findCurrent)
      | .leaves remains => ({ self with backup := some remains }, .failed)
      | _ => (self, .failed)
  | .findCurrent => (self, .next (if self.coverageDir.isSome then .moveAside else .moveIn))
  | .moveAside =>
      match outcome, self.coverageDir, self.backup with
      | .ok, some current, none =>
          ({ self with coverageDir := none, backup := some current }, .next .moveOver)
      | _, _, _ => (self, .failed)
  | .moveOver =>
      match outcome, self.coverageDir with
      | .ok, none => ({ self with coverageDir := some install.source }, .next .removeBackup)
      | _, _ => (self, .next .rollBack)
  | .rollBack =>
      match outcome, self.coverageDir, self.backup with
      | .ok, none, some old => ({ self with coverageDir := some old, backup := none }, .failed)
      | _, _, _ => ({ self with unfinished := true }, .failed)
  | .moveIn =>
      match outcome, self.coverageDir with
      | .ok, none => ({ self with coverageDir := some install.source }, .next .removeBackup)
      | _, _ => (self, .failed)
  | .removeBackup =>
      match outcome, self.backup with
      | .ok, _ => ({ self with backup := none }, .next .saveSha)
      | .leaves remains, some _ => ({ self with backup := some remains }, .next .saveSha)
      | _, _ => (self, .next .saveSha)
  | .saveSha =>
      let written (versionFile : List Char) : Option (Directory Data) :=
        self.coverageDir.map fun directory => { directory with versionFile := some versionFile }
      match outcome, self.coverageDir with
      | .ok, some _ =>
          ({ self with coverageDir := written install.commitSha, unfinished := false }, .installed)
      | .wrote length, some _ =>
          ({ self with coverageDir := written (install.commitSha.take length), unfinished := true },
            .failed)
      | _, _ => ({ self with unfinished := true }, .failed)

/-- A finished install. A failed one leaves a running server as it is; at startup the server
goes on with what is on the disk. -/
def finish (load : Data → Option Network) (self : Server Data Network)
    (install : Install Data Network) (succeeded : Bool) : Server Data Network :=
  if succeeded then
    { self with phase := .running install.network }
  else
    match install.purpose with
    | .startup => self.loadFromDisk load
    | .reload => self

/-- The next call of an install. -/
def advance (load : Data → Option Network) (self : Server Data Network) (index : ℕ)
    (outcome : Outcome Data) : Option (Server Data Network) :=
  (self.installs[index]?).map fun install =>
    let called := self.call install outcome
    match called.2 with
    | .next stage =>
        { called.1 with installs := self.installs.set index { install with stage := stage } }
    | .installed =>
        { called.1 with installs := self.installs.eraseIdx index }.finish load install true
    | .failed =>
        { called.1 with installs := self.installs.eraseIdx index }.finish load install false

/-- Begin to install a dataset that was downloaded for a commit, if it can be loaded. -/
def fetchAndInstall (load : Data → Option Network) (self : Server Data Network)
    (purpose : Purpose) (commitSha : List Char) (download : Option (Directory Data)) :
    Option (Server Data Network) :=
  download.bind fun source => (load source.dataset).map fun network =>
    { self with
      installs := self.installs ++ [⟨purpose, commitSha, source, network, .findBackup⟩]
      downloaded := (commitSha, source.dataset) :: self.downloaded }

inductive Move (Data : Type) where
  /-- The process starts, and finds out the deployed commit unless the repository is out of
  reach. -/
  | boot (deployed : Option (List Char))
  | fetch (download : Option (Directory Data))
  | reload (commitSha : List Char) (download : Option (Directory Data))
  | advance (index : ℕ) (outcome : Outcome Data)
  | crash

def step (load : Data → Option Network) (self : Server Data Network) :
    Move Data → Option (Server Data Network)
  | .boot deployed =>
      match self.phase with
      | .down =>
          match deployed with
          | none => some (self.loadFromDisk load)
          | some sha =>
              if self.localSha = some sha then some (self.loadFromDisk load)
              else some { self with phase := .starting sha }
      | _ => none
  | .fetch download =>
      match self.phase with
      | .starting sha =>
          if self.installs.isEmpty then
            some ((self.fetchAndInstall load .startup sha download).getD (self.loadFromDisk load))
          else
            none
      | _ => none
  | .reload commitSha download =>
      match self.phase with
      | .running _ => some ((self.fetchAndInstall load .reload commitSha download).getD self)
      | _ => none
  | .advance index outcome => self.advance load index outcome
  | .crash => some { self with phase := .down, installs := [], unfinished := true }

/-- A disk with or without a dataset of unknown origin. -/
def new (coverageDir backup : Option (Directory Data)) : Server Data Network where
  coverageDir := coverageDir
  backup := backup
  phase := .down
  installs := []
  downloaded := []
  unfinished := true

/-! ## One install -/

/-- The disk at a stage of an install that found a directory, or none. -/
def At (before : Option (Directory Data)) (source : Directory Data) (stage : Stage)
    (state : Server Data Network) : Prop :=
  match stage.place with
  | .kept => state.coverageDir = before
  | .aside => state.coverageDir = none ∧ state.backup = before ∧ before.isSome
  | .placed => state.coverageDir = some source

/-- A dataset was moved into place, and at most a part of its commit was written down. -/
def Unrecorded (source : Directory Data) (commitSha : List Char)
    (coverageDir : Option (Directory Data)) : Prop :=
  ∃ versionFile, coverageDir = some { source with versionFile := versionFile } ∧
    (versionFile = source.versionFile ∨ ∃ text, versionFile = some text ∧ text <+: commitSha)

/-- What a call of an install leaves behind: the disk of its next stage, a failure that has
changed nothing or could not be undone, or the new dataset with its commit. -/
inductive Called (before : Option (Directory Data)) (install : Install Data Network)
    (self called : Server Data Network) : Progress Data Network → Prop where
  | next (stage : Stage) (isAt : At before install.source stage called)
      (same : called.unfinished = self.unfinished) : Called before install self called (.next stage)
  | undone (kept : called.coverageDir = before) (same : called.unfinished = self.unfinished) :
      Called before install self called .failed
  | stuck (unfinished : called.unfinished = true)
      (left : called.coverageDir = none ∧ called.backup = before ∧ before.isSome ∨
        Unrecorded install.source install.commitSha called.coverageDir) :
      Called before install self called .failed
  | installed (placed : called.coverageDir =
        some { install.source with versionFile := some install.commitSha })
      (finished : called.unfinished = false) : Called before install self called .installed

/-- A call changes the directories and nothing else. -/
theorem call_frame (self : Server Data Network) (install : Install Data Network)
    (outcome : Outcome Data) :
    (self.call install outcome).1.phase = self.phase ∧
      (self.call install outcome).1.installs = self.installs ∧
      (self.call install outcome).1.downloaded = self.downloaded := by
  unfold call
  split
  · exact ⟨rfl, rfl, rfl⟩
  · split <;> exact ⟨rfl, rfl, rfl⟩
  · exact ⟨rfl, rfl, rfl⟩
  · split <;> exact ⟨rfl, rfl, rfl⟩
  · split <;> exact ⟨rfl, rfl, rfl⟩
  · split <;> exact ⟨rfl, rfl, rfl⟩
  · split <;> exact ⟨rfl, rfl, rfl⟩
  · split <;> exact ⟨rfl, rfl, rfl⟩
  · dsimp only
    split <;> exact ⟨rfl, rfl, rfl⟩

theorem called {before : Option (Directory Data)} {self : Server Data Network}
    {install : Install Data Network} (isAt : At before install.source install.stage self)
    (outcome : Outcome Data) :
    Called before install self (self.call install outcome).1 (self.call install outcome).2 := by
  unfold call
  cases stage : install.stage with
  | findBackup =>
      rw [stage] at isAt
      refine .next _ ?_ rfl
      cases self.backup with
      | none => exact isAt
      | some backup => exact isAt
  | removeStaleBackup =>
      rw [stage] at isAt
      cases outcome with
      | ok => exact .next _ isAt rfl
      | failed => exact .undone isAt rfl
      | leaves remains => exact .undone isAt rfl
      | wrote length => exact .undone isAt rfl
  | findCurrent =>
      rw [stage] at isAt
      refine .next _ ?_ rfl
      cases self.coverageDir with
      | none => exact isAt
      | some current => exact isAt
  | moveAside =>
      rw [stage] at isAt
      change self.coverageDir = before at isAt
      dsimp only
      split
      · next current isCurrent _ =>
          refine .next _ ⟨rfl, ?_, ?_⟩ rfl
          · exact isCurrent.symm.trans isAt
          · rw [← isAt, isCurrent]
            rfl
      · exact .undone isAt rfl
  | moveOver =>
      rw [stage] at isAt
      dsimp only
      split
      · exact .next _ rfl rfl
      · exact .next _ isAt rfl
  | rollBack =>
      rw [stage] at isAt
      obtain ⟨gone, isAside, existed⟩ := isAt
      dsimp only
      split
      · next old _ isOld => exact .undone (isOld.symm.trans isAside) rfl
      · exact .stuck rfl (Or.inl ⟨gone, isAside, existed⟩)
  | moveIn =>
      rw [stage] at isAt
      dsimp only
      split
      · exact .next _ rfl rfl
      · exact .undone isAt rfl
  | removeBackup =>
      rw [stage] at isAt
      dsimp only
      split
      · exact .next _ isAt rfl
      · exact .next _ isAt rfl
      · exact .next _ isAt rfl
  | saveSha =>
      rw [stage] at isAt
      change self.coverageDir = some install.source at isAt
      dsimp only
      rw [isAt]
      cases outcome with
      | ok => exact .installed rfl rfl
      | failed => exact .stuck rfl (Or.inr ⟨_, rfl, Or.inl rfl⟩)
      | leaves remains => exact .stuck rfl (Or.inr ⟨_, rfl, Or.inl rfl⟩)
      | wrote length =>
          exact .stuck rfl (Or.inr ⟨_, rfl, Or.inr ⟨_, rfl, List.take_prefix _ _⟩⟩)

/-- The only install there is goes on, or is ended. -/
theorem advance_cases {load : Data → Option Network} {self next : Server Data Network}
    {install : Install Data Network} {index : ℕ} {outcome : Outcome Data}
    (alone : self.installs = [install])
    (advances : self.advance load index outcome = some next) :
    (∃ stage, (self.call install outcome).2 = .next stage ∧
      next = { (self.call install outcome).1 with
        installs := [{ install with stage := stage }] }) ∨
    ∃ succeeded, (self.call install outcome).2 = (if succeeded then .installed else .failed) ∧
      next = { (self.call install outcome).1 with installs := [] }.finish load install
        succeeded := by
  obtain ⟨found, isInstall, advanced⟩ := Option.map_eq_some_iff.mp advances
  have first : index = 0 ∧ found = install := by
    rw [alone] at isInstall
    cases index with
    | zero => exact ⟨rfl, (Option.some.inj isInstall).symm⟩
    | succ index => cases isInstall
  obtain ⟨rfl, rfl⟩ := first
  rw [alone] at advanced
  dsimp only at advanced
  cases progress : (self.call found outcome).2 with
  | next stage =>
      rw [progress] at advanced
      exact Or.inl ⟨stage, rfl, advanced.symm⟩
  | installed =>
      rw [progress] at advanced
      exact Or.inr ⟨true, rfl, advanced.symm⟩
  | failed =>
      rw [progress] at advanced
      exact Or.inr ⟨false, rfl, advanced.symm⟩

theorem coverageDir_finish (load : Data → Option Network) (self : Server Data Network)
    (install : Install Data Network) (succeeded : Bool) :
    (self.finish load install succeeded).coverageDir = self.coverageDir ∧
      (self.finish load install succeeded).backup = self.backup ∧
      (self.finish load install succeeded).installs = self.installs ∧
      (self.finish load install succeeded).downloaded = self.downloaded := by
  unfold finish
  split
  · exact ⟨rfl, rfl, rfl, rfl⟩
  · split
    · unfold loadFromDisk
      split
      · exact ⟨rfl, rfl, rfl, rfl⟩
      · exact ⟨rfl, rfl, rfl, rfl⟩
    · exact ⟨rfl, rfl, rfl, rfl⟩

/-- What an install, or a crash during it, has made of the coverage directory. -/
inductive Settled (before : Option (Directory Data)) (source : Directory Data)
    (commitSha : List Char) (final : Server Data Network) : Prop where
  | kept (coverageDir : final.coverageDir = before)
  | aside (gone : final.coverageDir = none) (backup : final.backup = before)
      (existed : before.isSome)
  | unrecorded (placed : Unrecorded source commitSha final.coverageDir)
  | recorded (placed : final.coverageDir = some { source with versionFile := some commitSha })

theorem At.settled {before : Option (Directory Data)} {source : Directory Data}
    {state : Server Data Network} {stage : Stage} (isAt : At before source stage state)
    (commitSha : List Char) : Settled before source commitSha state := by
  unfold At at isAt
  split at isAt
  · exact .kept isAt
  · exact .aside isAt.1 isAt.2.1 isAt.2.2
  · exact .unrecorded ⟨source.versionFile, isAt, Or.inl rfl⟩

theorem Settled.of_eq {before : Option (Directory Data)} {source : Directory Data}
    {commitSha : List Char} {state final : Server Data Network}
    (settled : Settled before source commitSha state)
    (coverageDir : final.coverageDir = state.coverageDir)
    (backup : final.backup = state.backup) : Settled before source commitSha final := by
  cases settled with
  | kept kept => exact .kept (coverageDir.trans kept)
  | aside gone isAside existed =>
      exact .aside (coverageDir.trans gone) (backup.trans isAside) existed
  | unrecorded placed => exact .unrecorded (coverageDir ▸ placed)
  | recorded placed => exact .recorded (coverageDir.trans placed)

theorem Called.settled {before : Option (Directory Data)} {install : Install Data Network}
    {self called : Server Data Network} {progress : Progress Data Network}
    (isCalled : Called before install self called progress) :
    Settled before install.source install.commitSha called := by
  cases isCalled with
  | next stage isAt same => exact isAt.settled _
  | undone kept same => exact .kept kept
  | stuck unfinished left =>
      rcases left with ⟨gone, isAside, existed⟩ | placed
      · exact .aside gone isAside existed
      · exact .unrecorded placed
  | installed placed finished => exact .recorded placed

/-- A call of an install, or the end of the process. -/
def Move.belongs : Move Data → Bool
  | .advance _ _ => true
  | .crash => true
  | _ => false

/-- An install that has begun with a directory, or without one, is still at one of its stages
or has settled. A reload that is over and has nothing left to repair has either changed
nothing, or everything. -/
inductive During (before : Option (Directory Data)) (phase : Phase Network)
    (install : Install Data Network) (state : Server Data Network) : Prop where
  | underWay (stage : Stage) (isAlone : state.installs = [{ install with stage := stage }])
      (isAt : At before install.source stage state) (samePhase : state.phase = phase)
  | complete (none : state.installs = []) (settled : Settled before install.source install.commitSha state)
      (reload : install.purpose = .reload → state.unfinished = false →
        state.coverageDir = before ∧ state.phase = phase ∨
        state.coverageDir =
            some { install.source with versionFile := some install.commitSha } ∧
          state.phase = .running install.network)

theorem During.step {load : Data → Option Network} {before : Option (Directory Data)}
    {phase : Phase Network} {install : Install Data Network} {self next : Server Data Network}
    {move : Move Data} (during : During before phase install self)
    (belongs : move.belongs = true) (steps : self.step load move = some next) :
    During before phase install next := by
  cases move with
  | boot deployed => cases belongs
  | fetch download => cases belongs
  | reload commitSha download => cases belongs
  | crash =>
      cases steps
      cases during with
      | underWay stage isAlone isAt samePhase =>
          exact .complete rfl ((isAt.settled _).of_eq rfl rfl) fun _ finished => nomatch finished
      | complete none settled reload =>
          exact .complete rfl (settled.of_eq rfl rfl) fun _ finished => nomatch finished
  | advance index outcome =>
      cases during with
      | complete none settled reload =>
          obtain ⟨found, isInstall, -⟩ := Option.map_eq_some_iff.mp steps
          rw [none] at isInstall
          cases isInstall
      | underWay stage isAlone isAt samePhase =>
          let staged : Install Data Network := { install with stage := stage }
          have isStaged : At before staged.source staged.stage self := isAt
          have isCalled := called isStaged outcome
          obtain ⟨framePhase, -, -⟩ := self.call_frame staged outcome
          rcases advance_cases isAlone steps with ⟨later, progress, rfl⟩ | ⟨succeeded, progress, rfl⟩
          · rw [progress] at isCalled
            cases isCalled with
            | next _ isAtNext same => exact .underWay later rfl isAtNext (framePhase.trans samePhase)
          · let ended : Server Data Network := { (self.call staged outcome).1 with installs := [] }
            obtain ⟨coverageDir, backup, installs, -⟩ :=
              ended.coverageDir_finish load staged succeeded
            have settled : Settled before install.source install.commitSha ended :=
              isCalled.settled.of_eq rfl rfl
            refine .complete installs (settled.of_eq coverageDir backup) fun isReload finished => ?_
            rw [progress] at isCalled
            cases succeeded with
            | true =>
                cases isCalled with
                | installed placed _ => exact Or.inr ⟨placed, rfl⟩
            | false =>
                have unchanged : ended.finish load staged false = ended := by
                  unfold finish
                  rw [if_neg Bool.false_ne_true]
                  change (match install.purpose with
                    | .startup => ended.loadFromDisk load
                    | .reload => ended) = ended
                  rw [isReload]
                cases isCalled with
                | undone kept _ =>
                    change (ended.finish load staged false).coverageDir = before ∧
                      (ended.finish load staged false).phase = phase ∨ _
                    rw [unchanged]
                    exact Or.inl ⟨kept, framePhase.trans samePhase⟩
                | stuck unfinished left =>
                    change (ended.finish load staged false).unfinished = false at finished
                    rw [unchanged] at finished
                    exact absurd (unfinished.symm.trans finished) Bool.false_ne_true.symm

theorem fetchAndInstall_cases {load : Data → Option Network} {self begun : Server Data Network}
    {purpose : Purpose} {commitSha : List Char} {download : Option (Directory Data)}
    (begins : self.fetchAndInstall load purpose commitSha download = some begun) :
    ∃ source network, download = some source ∧ load source.dataset = some network ∧
      begun = { self with
        installs := self.installs ++ [⟨purpose, commitSha, source, network, .findBackup⟩]
        downloaded := (commitSha, source.dataset) :: self.downloaded } := by
  obtain ⟨source, isDownload, begins⟩ := Option.bind_eq_some_iff.mp begins
  obtain ⟨network, loads, rfl⟩ := Option.map_eq_some_iff.mp begins
  exact ⟨source, network, isDownload, loads, rfl⟩

/-- The version file of a directory, if it has one, is the commit that the dataset was
downloaded for, or the beginning of it. -/
def Named (downloaded : List (List Char × Data)) (directory : Directory Data) : Prop :=
  ∀ text ∈ directory.versionFile, ∃ commitSha,
    (commitSha, directory.dataset) ∈ downloaded ∧ text <+: commitSha

def Serves (load : Data → Option Network) (coverageDir : Option (Directory Data))
    (network : Network) : Prop :=
  ∃ directory ∈ coverageDir, load directory.dataset = some network

/-- What holds as long as installs do not overlap. -/
inductive Orderly (load : Data → Option Network) (state : Server Data Network) : Prop where
  | idle (none : state.installs = [])
      (named : ∀ directory ∈ state.coverageDir, Named state.downloaded directory)
      (serves : ∀ network, state.phase = .running network → state.unfinished = false →
        Serves load state.coverageDir network)
  | busy (before : Option (Directory Data)) (install : Install Data Network)
      (isAlone : state.installs = [install]) (up : state.phase ≠ .down)
      (unmarked : install.source.versionFile = none)
      (loads : load install.source.dataset = some install.network)
      (listed : (install.commitSha, install.source.dataset) ∈ state.downloaded)
      (isAt : At before install.source install.stage state)
      (named : ∀ directory ∈ before, Named state.downloaded directory)
      (serves : ∀ network, state.phase = .running network → state.unfinished = false →
        Serves load before network)

theorem Orderly.named {load : Data → Option Network} {state : Server Data Network}
    (orderly : Orderly load state) :
    ∀ directory ∈ state.coverageDir, Named state.downloaded directory := by
  cases orderly with
  | idle none named serves => exact named
  | busy before install isAlone up unmarked loads listed isAt named serves =>
      intro directory isThere
      unfold At at isAt
      split at isAt
      · rw [isAt] at isThere
        exact named directory isThere
      · rw [isAt.1] at isThere
        cases isThere
      · rw [isAt] at isThere
        cases isThere
        intro text isText
        rw [unmarked] at isText
        cases isText

/-- What is loaded from the disk is what is served. -/
theorem orderly_loadFromDisk {load : Data → Option Network} {state : Server Data Network}
    (none : state.installs = [])
    (named : ∀ directory ∈ state.coverageDir, Named state.downloaded directory) :
    Orderly load (state.loadFromDisk load) := by
  unfold loadFromDisk
  split
  · next network isLoaded =>
      refine .idle none named fun served isServed _ => ?_
      cases isServed
      exact Option.bind_eq_some_iff.mp isLoaded
  · refine .idle none named fun _ isServed _ => ?_
    cases isServed

/-- The next dataset is on its way. -/
theorem Orderly.fetchAndInstall {load : Data → Option Network} {self begun : Server Data Network}
    {purpose : Purpose} {commitSha : List Char} {download : Option (Directory Data)}
    (orderly : Orderly load self) (none : self.installs = []) (up : self.phase ≠ .down)
    (unmarked : ∀ source ∈ download, source.versionFile = Option.none)
    (begins : self.fetchAndInstall load purpose commitSha download = some begun) :
    Orderly load begun := by
  obtain ⟨source, network, isDownload, loads, rfl⟩ := fetchAndInstall_cases begins
  have named : ∀ directory ∈ self.coverageDir,
      Named ((commitSha, source.dataset) :: self.downloaded) directory := by
    intro directory isThere text isText
    obtain ⟨sha, listed, isPrefix⟩ := orderly.named directory isThere text isText
    exact ⟨sha, List.mem_cons_of_mem _ listed, isPrefix⟩
  cases orderly with
  | idle _ _ serves =>
      refine .busy self.coverageDir ⟨purpose, commitSha, source, network, .findBackup⟩ ?_ up
        (unmarked source isDownload) loads List.mem_cons_self rfl named serves
      rw [none, List.nil_append]
  | busy before install isAlone _ _ _ _ _ _ _ =>
      rw [none] at isAlone
      cases isAlone

theorem Orderly.advance {load : Data → Option Network} {self next : Server Data Network}
    {index : ℕ} {outcome : Outcome Data} (orderly : Orderly load self)
    (advances : self.advance load index outcome = some next) : Orderly load next := by
  cases orderly with
  | idle none named serves =>
      obtain ⟨found, isInstall, -⟩ := Option.map_eq_some_iff.mp advances
      rw [none] at isInstall
      cases isInstall
  | busy before install isAlone up unmarked loads listed isAt named serves =>
      have isCalled := called isAt outcome
      obtain ⟨phase, -, downloaded⟩ := self.call_frame install outcome
      rcases advance_cases isAlone advances with ⟨stage, progress, rfl⟩ | ⟨succeeded, progress, rfl⟩
      · rw [progress] at isCalled
        cases isCalled with
        | next _ isAtNext same =>
            refine .busy before { install with stage := stage } rfl ?_ unmarked loads ?_ isAtNext
              ?_ ?_
            · rw [phase]
              exact up
            · rw [downloaded]
              exact listed
            · rw [downloaded]
              exact named
            · rw [phase, same]
              exact serves
      · let ended : Server Data Network := { (self.call install outcome).1 with installs := [] }
        have isDownloaded : ended.downloaded = self.downloaded := downloaded
        rw [progress] at isCalled
        cases succeeded with
        | true =>
            cases isCalled with
            | installed placed finished =>
                refine .idle rfl (fun directory isThere text isText => ?_) fun network isServed _ => ?_
                · cases placed.symm.trans isThere
                  cases isText
                  refine ⟨install.commitSha, ?_, List.prefix_refl _⟩
                  change _ ∈ ended.downloaded
                  rw [isDownloaded]
                  exact listed
                · cases isServed
                  exact ⟨_, placed, loads⟩
        | false =>
            have endedNamed : ∀ directory ∈ ended.coverageDir, Named ended.downloaded directory := by
              rw [isDownloaded]
              intro directory isThere
              cases isCalled with
              | undone kept same => exact named directory (kept ▸ isThere)
              | stuck unfinished left =>
                  rcases left with ⟨gone, -⟩ | ⟨versionFile, placed, written⟩
                  · cases gone.symm.trans isThere
                  · cases placed.symm.trans isThere
                    intro text isText
                    rcases written with rfl | ⟨_, rfl, isPrefix⟩
                    · rw [unmarked] at isText
                      cases isText
                    · cases isText
                      exact ⟨install.commitSha, listed, isPrefix⟩
            change Orderly load (match install.purpose with
              | .startup => ended.loadFromDisk load
              | .reload => ended)
            cases install.purpose with
            | startup => exact orderly_loadFromDisk rfl endedNamed
            | reload =>
                refine .idle rfl endedNamed fun network isServed finished => ?_
                cases isCalled with
                | undone kept same =>
                    change Serves load (self.call install outcome).1.coverageDir network
                    rw [kept]
                    exact serves network (phase.symm.trans isServed) (same.symm.trans finished)
                | stuck unfinished left => cases unfinished.symm.trans finished

/-- A reload begins after the install before it, and no dataset brings a version file along. -/
def Alone (state : Server Data Network) : Move Data → Prop
  | .fetch download => ∀ source ∈ download, source.versionFile = none
  | .reload _ download =>
      state.installs.isEmpty = true ∧ ∀ source ∈ download, source.versionFile = none
  | _ => True

instance (state : Server Data Network) : ∀ move : Move Data, Decidable (state.Alone move)
  | .fetch download => inferInstanceAs (Decidable (∀ source ∈ download, _ = none))
  | .reload _ download => inferInstanceAs (Decidable (_ ∧ ∀ source ∈ download, _ = none))
  | .boot _ => isTrue trivial
  | .advance _ _ => isTrue trivial
  | .crash => isTrue trivial

theorem Orderly.step {load : Data → Option Network} {self next : Server Data Network}
    {move : Move Data} (orderly : Orderly load self) (isAlone : self.Alone move)
    (steps : self.step load move = some next) : Orderly load next := by
  cases move with
  | crash =>
      cases steps
      exact .idle rfl orderly.named fun _ isServed _ => nomatch isServed
  | advance index outcome => exact orderly.advance steps
  | boot deployed =>
      cases phase : self.phase with
      | starting sha =>
          simp only [Server.step, phase] at steps
          cases steps
      | running network =>
          simp only [Server.step, phase] at steps
          cases steps
      | down =>
          have none : self.installs = [] := by
            cases orderly with
            | idle none named serves => exact none
            | busy before install isAlone up _ _ _ _ _ _ => exact absurd phase up
          have loaded : Orderly load (self.loadFromDisk load) :=
            orderly_loadFromDisk none orderly.named
          simp only [Server.step, phase] at steps
          cases deployed with
          | none =>
              cases steps
              exact loaded
          | some sha =>
              dsimp only at steps
              split at steps
              · cases steps
                exact loaded
              · cases steps
                exact .idle none orderly.named fun _ isServed _ => nomatch isServed
  | fetch download =>
      cases phase : self.phase with
      | down =>
          simp only [Server.step, phase] at steps
          cases steps
      | running network =>
          simp only [Server.step, phase] at steps
          cases steps
      | starting sha =>
          simp only [Server.step, phase] at steps
          obtain ⟨isEmpty, steps⟩ := Option.ite_none_right_eq_some.mp steps
          have none := List.isEmpty_iff.mp isEmpty
          cases begins : self.fetchAndInstall load .startup sha download with
          | none =>
              rw [begins] at steps
              cases steps
              exact orderly_loadFromDisk none orderly.named
          | some begun =>
              rw [begins] at steps
              cases steps
              exact orderly.fetchAndInstall none (by rw [phase]; exact fun down => nomatch down)
                isAlone begins
  | reload commitSha download =>
      cases phase : self.phase with
      | down =>
          simp only [Server.step, phase] at steps
          cases steps
      | starting sha =>
          simp only [Server.step, phase] at steps
          cases steps
      | running network =>
          simp only [Server.step, phase] at steps
          cases begins : self.fetchAndInstall load .reload commitSha download with
          | none =>
              rw [begins] at steps
              cases steps
              exact orderly
          | some begun =>
              rw [begins] at steps
              cases steps
              exact orderly.fetchAndInstall (List.isEmpty_iff.mp isAlone.1)
                (by rw [phase]; exact fun down => nomatch down) isAlone.2 begins

def hexDigits : List Char :=
  ['0', '1', '2', '3', '4', '5', '6', '7', '8', '9', 'a', 'b', 'c', 'd', 'e', 'f']

/-- A commit in full: forty hexadecimal digits. -/
def IsSha (text : List Char) : Prop :=
  text.length = 40 ∧ text.all hexDigits.contains

instance (text : List Char) : Decidable (IsSha text) := inferInstanceAs (Decidable (_ ∧ _))

theorem trim_of_forall {text : List Char}
    (noWhiteSpace : ∀ c ∈ text, Keybinds.isWhiteSpace c = false) : Keybinds.trim text = text := by
  have stays : ∀ {text : List Char}, (∀ c ∈ text, Keybinds.isWhiteSpace c = false) →
      text.dropWhile Keybinds.isWhiteSpace = text := by
    intro text noWhiteSpace
    cases text with
    | nil => rfl
    | cons c rest =>
        refine List.dropWhile_cons_of_neg ?_
        rw [noWhiteSpace c List.mem_cons_self]
        exact Bool.false_ne_true
  rw [Keybinds.trim, stays noWhiteSpace, stays, List.reverse_reverse]
  exact fun c isThere => noWhiteSpace c (List.mem_reverse.mp isThere)

/-- A version file that reads as a full commit is that of the whole commit. -/
theorem eq_of_trim_prefix {deployed text commitSha : List Char} (isDeployed : IsSha deployed)
    (isCommit : IsSha commitSha) (isPrefix : text <+: commitSha)
    (reads : Keybinds.trim text = deployed) : commitSha = deployed := by
  have digits : hexDigits.all fun c => !Keybinds.isWhiteSpace c := by decide
  have visible : ∀ c ∈ text, Keybinds.isWhiteSpace c = false := by
    intro c isThere
    have isDigit := List.all_eq_true.mp isCommit.2 c (isPrefix.subset isThere)
    have apart := List.all_eq_true.mp digits c (List.contains_iff_mem.mp isDigit)
    rwa [Bool.not_eq_true'] at apart
  have whole : Keybinds.trim text = text := trim_of_forall visible
  rw [whole] at reads
  rw [← reads]
  refine (isPrefix.eq_of_length ?_).symm
  rw [isCommit.1, reads, isDeployed.1]

/-- A first install, a reload that cannot be recorded, and a restart after it. -/
def unrecordedReload : List (Move ℕ) :=
  let first := List.replicate 40 '1'
  let second := List.replicate 40 '2'
  [.boot (some first), .fetch (some ⟨1, none⟩), .advance 0 .ok, .advance 0 .ok, .advance 0 .ok,
    .advance 0 .ok, .advance 0 .ok, .reload second (some ⟨2, none⟩), .advance 0 .ok,
    .advance 0 .ok, .advance 0 .ok, .advance 0 .ok, .advance 0 .ok, .advance 0 (.wrote 7), .crash,
    .boot (some second), .fetch (some ⟨2, none⟩), .advance 0 .ok, .advance 0 .ok, .advance 0 .ok,
    .advance 0 .ok, .advance 0 .ok, .advance 0 .ok]

/-- Of two reloads that overlap, the first one writes its commit next to the dataset of the
second. -/
example : ((runMoves (step some)
    { coverageDir := none, backup := none, phase := .running 0, installs := [], downloaded := []
      unfinished := false }
    [.reload ['1'] (some ⟨1, none⟩), .reload ['2'] (some ⟨2, none⟩), .advance 0 .ok,
      .advance 0 .ok, .advance 0 .ok, .advance 0 .ok, .advance 1 .ok, .advance 1 .ok,
      .advance 1 .ok, .advance 1 .ok, .advance 1 .ok, .advance 1 .ok, .advance 0 .ok]).bind
    Server.coverageDir) = some ⟨2, some ['1']⟩ := by
  decide +kernel

end Server

end Dataset

end Vacs
