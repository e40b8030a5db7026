import CleanRoom.Library.BigEndian
import Mathlib.Data.List.AList

/-!
# Files as a Go program uses them

`Go` is the monad of code that updates a state and may return an error: what was
written before the error stays written. On it stand the calls of the `os` package
over a disk. A handle keeps its file when the name is removed, until it is closed.
Every call may fail for a reason outside the program. The disk carries the list of
these outcomes. A write that fails has stored some part of its data.
-/

namespace CleanRoom.GoFiles

open ByteFile

inductive GoError where
  | notExist
  | alreadyExists
  | isDirectory
  | notEmpty
  | closed
  | endOfFile
  | negativeOffset
  | inputOutput
  | enoent
  | erange
  | keySize
  | authentication
  | text (message : String)
  /-- `fmt.Errorf` with `%w`. -/
  | wrapped (message : String) (cause : GoError)
deriving DecidableEq

/-- A computation that ends with a value or an error, and with a state in both
cases. -/
def Go (State Value : Type) : Type := State → Except GoError Value × State

namespace Go

variable {State Part Value Result : Type}

instance : Monad (Go State) where
  pure value := fun state => (.ok value, state)
  bind first next := fun state =>
    match first state with
    | (.ok value, after) => next value after
    | (.error error, after) => (.error error, after)

def throw (error : GoError) : Go State Value := fun state => (.error error, state)

def get : Go State State := fun state => (.ok state, state)

def modify (update : State → State) : Go State Unit := fun state => (.ok (), update state)

def mapError (wrap : GoError → GoError) (body : Go State Value) : Go State Value := fun state =>
  match body state with
  | (.ok value, after) => (.ok value, after)
  | (.error error, after) => (.error (wrap error), after)

def defer (cleanup : Go State Unit) (body : Go State Value) : Go State Value := fun state =>
  let ended := body state
  (ended.1, (cleanup ended.2).2)

def within (view : State → Part) (replace : State → Part → State) (body : Go Part Value) :
    Go State Value := fun state =>
  let ended := body (view state)
  (ended.1, replace state ended.2)

@[simp] theorem modify_apply (update : State → State) (state : State) :
    modify update state = (.ok (), update state) := rfl

theorem bind_ok {first : Go State Value} {next : Value → Go State Result}
    {state after : State} {value : Value} (ran : first state = (.ok value, after)) :
    (first >>= next) state = next value after := by
  simp only [bind, ran]

theorem bind_failed {first : Go State Value} {next : Value → Go State Result}
    {state after : State} {error : GoError} (ran : first state = (.error error, after)) :
    (first >>= next) state = (.error error, after) := by
  simp only [bind, ran]

@[simp] theorem get_bind (next : State → Go State Result) (state : State) :
    (get >>= next) state = next state state := rfl

@[simp] theorem modify_bind (update : State → State) (next : Unit → Go State Result)
    (state : State) : (modify update >>= next) state = next () (update state) := rfl

theorem mapError_ok (wrap : GoError → GoError) {body : Go State Value} {state after : State}
    {value : Value} (ran : body state = (.ok value, after)) :
    mapError wrap body state = (.ok value, after) := by
  simp only [mapError, ran]

theorem defer_apply {cleanup : Go State Unit} {body : Go State Value} {state middle : State}
    {result : Except GoError Value} (ran : body state = (result, middle)) :
    defer cleanup body state = (result, (cleanup middle).2) := by
  simp only [defer, ran]

theorem within_apply (view : State → Part) (replace : State → Part → State)
    {body : Go Part Value} {state : State} {result : Except GoError Value} {part : Part}
    (ran : body (view state) = (result, part)) :
    within view replace body state = (result, replace state part) := by
  simp only [within, ran]

/-! What a result without an error tells about the parts. -/

theorem bind_returned {first : Go State Value} {next : Value → Go State Result}
    {state after : State} {result : Result} (ran : (first >>= next) state = (.ok result, after)) :
    ∃ value middle, first state = (.ok value, middle) ∧
      next value middle = (.ok result, after) := by
  simp only [bind] at ran
  split at ran
  next value middle returned => exact ⟨value, middle, returned, ran⟩
  next => cases ran

theorem defer_returned {cleanup : Go State Unit} {body : Go State Value} {state after : State}
    {value : Value} (ran : defer cleanup body state = (.ok value, after)) :
    ∃ middle, body state = (.ok value, middle) := by
  have result : (body state).1 = .ok value := congrArg Prod.fst ran
  exact ⟨(body state).2, Prod.ext result rfl⟩

theorem within_returned {view : State → Part} {replace : State → Part → State}
    {body : Go Part Value} {state after : State} {value : Value}
    (ran : within view replace body state = (.ok value, after)) :
    ∃ part, body (view state) = (.ok value, part) ∧ after = replace state part := by
  have result : (body (view state)).1 = .ok value := congrArg Prod.fst ran
  exact ⟨(body (view state)).2, Prod.ext result rfl, (congrArg Prod.snd ran).symm⟩

end Go

inductive Entry where
  | directory (size : Nat)
  | file (inode : Nat)
deriving DecidableEq

structure Disk where
  entries : AList fun _ : String => Entry
  /-- The bytes of each inode, those without a name included. -/
  contents : Nat → Bytes
  nextInode : Nat
  openHandles : List Nat
  nextHandle : Nat
  /-- The outcomes of the calls to come. A call with `some count` fails, and if it
  is a write, after `count` bytes. -/
  outcomes : List (Option Nat)

/-- A `*os.File`. -/
structure OsFile where
  id : Nat
  inode : Nat
deriving DecidableEq

structure FileInfo where
  size : Nat
  isDir : Bool
deriving DecidableEq

namespace Disk

def nextOutcome : Go Disk (Option Nat) := fun disk =>
  match disk.outcomes with
  | [] => (.ok none, disk)
  | outcome :: rest => (.ok outcome, { disk with outcomes := rest })

def attempt : Go Disk Unit := do
  match ← nextOutcome with
  | none => pure ()
  | some _ => Go.throw .inputOutput

def newHandle (inode : Nat) : Go Disk OsFile := fun disk =>
  (.ok ⟨disk.nextHandle, inode⟩,
    { disk with
      openHandles := disk.nextHandle :: disk.openHandles
      nextHandle := disk.nextHandle + 1 })

/-- `os.OpenFile`. A directory is refused here and not at the first read. -/
def openFile (path : String) (create : Bool) : Go Disk OsFile := do
  attempt
  let disk ← Go.get
  match disk.entries.lookup path with
  | some (.file inode) => newHandle inode
  | some (.directory _) => Go.throw .isDirectory
  | none =>
      if create then do
        Go.modify fun disk =>
          { disk with
            entries := disk.entries.insert path (.file disk.nextInode)
            contents := Function.update disk.contents disk.nextInode []
            nextInode := disk.nextInode + 1 }
        newHandle disk.nextInode
      else Go.throw .notExist

def checkOpen (handle : OsFile) : Go Disk Unit := do
  let disk ← Go.get
  if handle.id ∈ disk.openHandles then pure () else Go.throw .closed

def stat (path : String) : Go Disk FileInfo := do
  attempt
  let disk ← Go.get
  match disk.entries.lookup path with
  | some (.file inode) => pure ⟨(disk.contents inode).length, false⟩
  | some (.directory size) => pure ⟨size, true⟩
  | none => Go.throw .notExist

def fileStat (handle : OsFile) : Go Disk FileInfo := do
  checkOpen handle
  attempt
  let disk ← Go.get
  pure ⟨(disk.contents handle.inode).length, false⟩

/-- `File.ReadAt` of a buffer with `count` bytes: an error unless it is filled. -/
def readAt (handle : OsFile) (count : Nat) (offset : Int) : Go Disk Bytes := do
  checkOpen handle
  if offset < 0 then Go.throw .negativeOffset
  else do
    attempt
    let disk ← Go.get
    let found := slice (disk.contents handle.inode) offset.toNat count
    if found.length < count then Go.throw .endOfFile else pure found

/-- What a write of these bytes leaves. Writing no bytes does not extend the file. -/
def stored (file : Bytes) (offset : Nat) (data : Bytes) : Bytes :=
  if data = [] then file else overwrite file offset data

def store (handle : OsFile) (offset : Nat) (data : Bytes) : Go Disk Unit :=
  Go.modify fun disk =>
    { disk with
      contents := Function.update disk.contents handle.inode
        (stored (disk.contents handle.inode) offset data) }

def writeAt (handle : OsFile) (data : Bytes) (offset : Int) : Go Disk Unit := do
  checkOpen handle
  if offset < 0 then Go.throw .negativeOffset
  else do
    match ← nextOutcome with
    | none => store handle offset.toNat data
    | some count => do
        store handle offset.toNat (data.take count)
        Go.throw .inputOutput

def close (handle : OsFile) : Go Disk Unit := do
  checkOpen handle
  Go.modify fun disk => { disk with openHandles := disk.openHandles.erase handle.id }

def remove (path : String) : Go Disk Unit := do
  attempt
  let disk ← Go.get
  match disk.entries.lookup path with
  | some (.file _) => Go.modify fun disk => { disk with entries := disk.entries.erase path }
  | some (.directory _) =>
      if disk.entries.entries.any fun entry => (path ++ "/").isPrefixOf entry.1 then
        Go.throw .notEmpty
      else Go.modify fun disk => { disk with entries := disk.entries.erase path }
  | none => Go.throw .notExist

section Reading

variable {disk after : Disk}

theorem attempt_contents (ran : attempt disk = (.ok (), after)) :
    after.contents = disk.contents := by
  obtain ⟨outcome, middle, drawn, rest⟩ := Go.bind_returned ran
  have kept : middle.contents = disk.contents := by
    unfold nextOutcome at drawn
    split at drawn
    next => cases drawn; rfl
    next => cases drawn; rfl
  cases outcome with
  | none =>
      cases rest
      exact kept
  | some count => cases rest

theorem open_file_contents {path : String} {handle : OsFile}
    (ran : openFile path false disk = (.ok handle, after)) : after.contents = disk.contents := by
  obtain ⟨_, middle, attempted, rest⟩ := Go.bind_returned ran
  rw [Go.get_bind] at rest
  rw [← attempt_contents attempted]
  cases found : middle.entries.lookup path with
  | none =>
      rw [found] at rest
      cases rest
  | some entry =>
      rw [found] at rest
      cases entry with
      | directory size => cases rest
      | file inode =>
          cases rest
          rfl

theorem read_at_returned {handle : OsFile} {count : Nat} {offset : Int} {found : Bytes}
    (ran : readAt handle count offset disk = (.ok found, after)) :
    found = slice (disk.contents handle.inode) offset.toNat count ∧ found.length = count := by
  obtain ⟨_, checked, checking, rest⟩ := Go.bind_returned ran
  have same : checked = disk := by
    rw [checkOpen, Go.get_bind] at checking
    split at checking
    next => cases checking; rfl
    next => cases checking
  split at rest
  next => cases rest
  next =>
    obtain ⟨_, middle, attempted, rest⟩ := Go.bind_returned rest
    rw [Go.get_bind, attempt_contents attempted, same] at rest
    split at rest
    next => cases rest
    next full =>
      cases rest
      refine ⟨rfl, ?_⟩
      rw [length_slice] at full ⊢
      omega

end Reading

section Outcomes

variable {disk : Disk} {path : String} {inode : Nat} {handle : OsFile}

/-- The outcome of one of the calls to come, `none` for one that works. -/
def outcomeAt (disk : Disk) (call : Nat) : Option Nat := disk.outcomes[call]?.join

def drawn (disk : Disk) : Disk := { disk with outcomes := disk.outcomes.tail }

theorem next_outcome_eq (disk : Disk) :
    nextOutcome disk = (.ok (disk.outcomeAt 0), disk.drawn) := by
  obtain ⟨entries, contents, nextInode, openHandles, nextHandle, outcomes⟩ := disk
  cases outcomes with
  | nil => rfl
  | cons outcome rest => rfl

theorem attempt_fine (fine : disk.outcomeAt 0 = none) : attempt disk = (.ok (), disk.drawn) := by
  rw [attempt, Go.bind_ok (next_outcome_eq disk), fine]
  rfl

theorem attempt_failed (failed : disk.outcomeAt 0 ≠ none) :
    attempt disk = (.error .inputOutput, disk.drawn) := by
  obtain ⟨count, some⟩ := Option.ne_none_iff_exists'.mp failed
  rw [attempt, Go.bind_ok (next_outcome_eq disk), some]
  rfl

def opened (disk : Disk) : Disk :=
  { disk with
    openHandles := disk.nextHandle :: disk.openHandles
    nextHandle := disk.nextHandle + 1 }

theorem open_file_opens (create : Bool) (fine : disk.outcomeAt 0 = none)
    (found : disk.entries.lookup path = some (.file inode)) :
    openFile path create disk = (.ok ⟨disk.nextHandle, inode⟩, disk.drawn.opened) := by
  have lookup : disk.drawn.entries.lookup path = some (.file inode) := found
  rw [openFile, Go.bind_ok (attempt_fine fine), Go.get_bind, lookup]
  rfl

theorem check_open_ok (isOpen : handle.id ∈ disk.openHandles) :
    checkOpen handle disk = (.ok (), disk) := by
  rw [checkOpen, Go.get_bind, if_pos isOpen]
  rfl

end Outcomes

section Works

variable {disk : Disk} {path : String} {inode : Nat} {handle : OsFile}

def created (disk : Disk) (path : String) : Disk :=
  { disk with
    entries := disk.entries.insert path (.file disk.nextInode)
    contents := Function.update disk.contents disk.nextInode []
    nextInode := disk.nextInode + 1 }

def withContents (disk : Disk) (inode : Nat) (bytes : Bytes) : Disk :=
  { disk with contents := Function.update disk.contents inode bytes }

def withoutHandle (disk : Disk) (id : Nat) : Disk :=
  { disk with openHandles := disk.openHandles.erase id }

theorem next_outcome_works (works : disk.outcomes = []) :
    nextOutcome disk = (.ok none, disk) := by
  simp only [nextOutcome, works]

theorem attempt_works (works : disk.outcomes = []) : attempt disk = (.ok (), disk) := by
  rw [attempt, Go.bind_ok (next_outcome_works works)]
  rfl

theorem open_existing (works : disk.outcomes = []) (create : Bool)
    (found : disk.entries.lookup path = some (.file inode)) :
    openFile path create disk = (.ok ⟨disk.nextHandle, inode⟩, disk.opened) := by
  rw [openFile, Go.bind_ok (attempt_works works), Go.get_bind, found]
  rfl

theorem open_new (works : disk.outcomes = []) (missing : disk.entries.lookup path = none) :
    openFile path true disk =
      (.ok ⟨disk.nextHandle, disk.nextInode⟩, (disk.created path).opened) := by
  rw [openFile, Go.bind_ok (attempt_works works), Go.get_bind, missing]
  rfl

theorem stat_file (works : disk.outcomes = [])
    (found : disk.entries.lookup path = some (.file inode)) :
    stat path disk = (.ok ⟨(disk.contents inode).length, false⟩, disk) := by
  rw [stat, Go.bind_ok (attempt_works works), Go.get_bind, found]
  rfl

theorem file_stat_ok (works : disk.outcomes = []) (isOpen : handle.id ∈ disk.openHandles) :
    fileStat handle disk = (.ok ⟨(disk.contents handle.inode).length, false⟩, disk) := by
  rw [fileStat, Go.bind_ok (check_open_ok isOpen), Go.bind_ok (attempt_works works)]
  rfl

theorem read_at_ok (works : disk.outcomes = []) (isOpen : handle.id ∈ disk.openHandles)
    (offset count : Nat) (inFile : offset + count ≤ (disk.contents handle.inode).length) :
    readAt handle count offset disk =
      (.ok (slice (disk.contents handle.inode) offset count), disk) := by
  have filled := length_slice_of_le inFile
  rw [readAt, Go.bind_ok (check_open_ok isOpen), if_neg (by omega),
    Go.bind_ok (attempt_works works), Go.get_bind, Int.toNat_natCast, if_neg (by omega)]
  rfl

theorem read_at_opened (works : disk.outcomes = []) (offset count : Nat)
    (inFile : offset + count ≤ (disk.contents inode).length) :
    readAt ⟨disk.nextHandle, inode⟩ count offset disk.opened =
      (.ok (slice (disk.contents inode) offset count), disk.opened) :=
  @read_at_ok disk.opened ⟨disk.nextHandle, inode⟩ works List.mem_cons_self offset count inFile

theorem write_at_ok (works : disk.outcomes = []) (isOpen : handle.id ∈ disk.openHandles)
    (data : Bytes) (offset : Nat) (nonempty : data ≠ []) :
    writeAt handle data offset disk =
      (.ok (), disk.withContents handle.inode
        (overwrite (disk.contents handle.inode) offset data)) := by
  rw [writeAt, Go.bind_ok (check_open_ok isOpen), if_neg (by omega),
    Go.bind_ok (next_outcome_works works), Int.toNat_natCast]
  simp only [store, stored, if_neg nonempty, Go.modify_apply, withContents]

theorem close_ok (isOpen : handle.id ∈ disk.openHandles) :
    close handle disk = (.ok (), disk.withoutHandle handle.id) := by
  rw [close, Go.bind_ok (check_open_ok isOpen)]
  rfl

end Works

end Disk

end CleanRoom.GoFiles
