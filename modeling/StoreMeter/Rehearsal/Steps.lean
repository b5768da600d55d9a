import StoreMeter.Rehearsal.World
import StoreMeter.Run
/-
# Rehearsal.Steps — the steps of a rehearsal, one by one

A rehearsal is a list of steps on one world.  Three kinds of steps share their answers: operations
of a storage and its streams, the parts of a phase, and the parts of a run.  Streams that a step
opens are kept under the name that the step gives them.
-/
namespace StoreMeter
namespace Rehearsal

/-- What a step answers. -/
inductive StepAnswer where
  | nothing
  | truth (b : Bool)
  | count (n : Nat)
  | numbers (items : List Int)
  | bytes (data : ByteArray)
  | text (s : String)
  | texts (items : List String)
  | sizes (objects : List (String × Nat))
  | listing (files : List (String × Option Nat))
  | outcome (outcome : Outcome)
  | outcomes (outcomes : List Outcome)
  | tally (tally : Tally)

/-- Why a step has no answer. -/
inductive StepFault where
  /-- No stream was ever opened under this name. -/
  | noStream (name : String)
  | fault (fault : Fault)

/-- The result of a step. -/
abbrev StepResult := Except StepFault StepAnswer

/-- The result of a step that may fail like any operation. -/
def stepResult {α : Type} (view : α → StepAnswer) : Except Fault α → StepResult
  | .ok a => .ok (view a)
  | .error fault => .error (.fault fault)

/-- A world with the streams that steps opened. -/
structure Scene (backend : Backend) where
  world : World backend
  streams : List (String × backend.Stream) := []

/-! ## Steps on a storage -/

/-- An operation of a storage or of a named stream. -/
inductive StorageStep where
  | isPresent (path : String)
  | makeDirs (path : String)
  | delete (path : String)
  | create (path stream : String)
  | openRead (path stream : String)
  | write (stream : String) (data : ByteArray)
  | read (stream : String) (size : Option Int)
  | flush (stream : String)
  | close (stream : String)
  | isClosed (stream : String)
  /-- Creates, writes and closes; may fail between the last two. -/
  | writeWhole (path : String) (data : ByteArray) (raise : Option Fault)
  /-- Opens, reads and closes. -/
  | readWhole (path : String) (size : Option Int)
  /-- Opens, reads everything and closes. -/
  | contents (path : String)
  | sizes
  | listing
  | title

namespace Scene

variable {backend : Backend}

/-- Asks the storage. -/
def ask (scene : Scene backend) (op : Storage.Operation backend.Stream) :
    op.Answer × Scene backend :=
  let (reply, world) := scene.world.askStorage op
  (reply, { scene with world })

/-- Keeps a stream under a name. -/
def keep (scene : Scene backend) (name : String) (stream : backend.Stream) : Scene backend :=
  { scene with
    streams := (name, stream) :: scene.streams.filter fun entry => entry.1 != name }

/-- Gives the stream under a name up, if there is one. -/
def giveUp (scene : Scene backend) (name : String) : Scene backend :=
  match scene.streams.lookup name with
  | none => scene
  | some stream =>
    let store := backend.giveUp stream scene.world.store
    { scene with world := { scene.world with store } }

/-- Opens a stream and keeps it under a name, where it replaces the stream that had the name. -/
def opening (name : String) (reply : Except Fault backend.Stream) (scene : Scene backend) :
    StepResult × Scene backend :=
  match reply with
  | .ok stream => (.ok .nothing, (scene.giveUp name).keep name stream)
  | .error fault => (.error (.fault fault), scene)

/-- A step on a named stream. -/
def onStream (scene : Scene backend) (name : String)
    (step : backend.Stream → Scene backend → StepResult × Scene backend) :
    StepResult × Scene backend :=
  match scene.streams.lookup name with
  | none => (.error (.noStream name), scene)
  | some stream => step stream scene

/-- The end of a step that works on a stream and closes it: a failure to close counts more. -/
def closing (scene : Scene backend) (stream : backend.Stream) (result : StepResult) :
    StepResult × Scene backend :=
  let ((_, closed), scene) := scene.ask (.close stream)
  match closed with
  | .ok () => (result, scene)
  | .error fault => (.error (.fault fault), scene)

/-- Creates an object, writes it and closes it. -/
def writeWhole (scene : Scene backend) (path : String) (data : ByteArray) (raise : Option Fault) :
    StepResult × Scene backend :=
  match scene.ask (.create path) with
  | (.error fault, scene) => (.error (.fault fault), scene)
  | (.ok stream, scene) =>
    let ((stream, written), scene) := scene.ask (.write stream data)
    let result := match written, raise with
      | .ok _, some fault => .error (.fault fault)
      | .ok n, none => .ok (.count n)
      | .error fault, _ => .error (.fault fault)
    scene.closing stream result

/-- Opens an object, reads from it and closes it. -/
def readWhole (scene : Scene backend) (path : String) (size : Option Int) :
    StepResult × Scene backend :=
  match scene.ask (.openRead path) with
  | (.error fault, scene) => (.error (.fault fault), scene)
  | (.ok stream, scene) =>
    let ((stream, data), scene) := scene.ask (.read stream size)
    scene.closing stream (stepResult .bytes data)

/-- Takes a step on the storage. -/
def storageStep (scene : Scene backend) : StorageStep → StepResult × Scene backend
  | .isPresent path =>
    let (reply, scene) := scene.ask (.isPresent path)
    (stepResult .truth reply, scene)
  | .makeDirs path =>
    let (reply, scene) := scene.ask (.makeDirs path)
    (stepResult (fun () => .nothing) reply, scene)
  | .delete path =>
    let (reply, scene) := scene.ask (.delete path)
    (stepResult (fun () => .nothing) reply, scene)
  | .create path name =>
    let (reply, scene) := scene.ask (.create path)
    opening name reply scene
  | .openRead path name =>
    let (reply, scene) := scene.ask (.openRead path)
    opening name reply scene
  | .write name data =>
    scene.onStream name fun stream scene =>
      let ((stream, reply), scene) := scene.ask (.write stream data)
      (stepResult .count reply, scene.keep name stream)
  | .read name size =>
    scene.onStream name fun stream scene =>
      let ((stream, reply), scene) := scene.ask (.read stream size)
      (stepResult .bytes reply, scene.keep name stream)
  | .flush name =>
    scene.onStream name fun stream scene =>
      let ((stream, reply), scene) := scene.ask (.flush stream)
      (stepResult (fun () => .nothing) reply, scene.keep name stream)
  | .close name =>
    scene.onStream name fun stream scene =>
      let ((stream, reply), scene) := scene.ask (.close stream)
      (stepResult (fun () => .nothing) reply, scene.keep name stream)
  | .isClosed name =>
    scene.onStream name fun stream scene => (.ok (.truth (backend.isClosed stream)), scene)
  | .writeWhole path data raise => scene.writeWhole path data raise
  | .readWhole path size => scene.readWhole path size
  | .contents path => scene.readWhole path (some (-1))
  | .sizes =>
    match backend.sizes scene.world.store with
    | some objects => (.ok (.sizes objects), scene)
    | none => (.error (.fault (.missingOperation backend.kind "files")), scene)
  | .listing => (.ok (.listing ((backend.listing scene.world.store).getD [])), scene)
  | .title => (.ok (.text backend.title), scene)

end Scene

/-! ## Steps of a phase -/

/-- A part of a phase.  All steps share one set of late workers, which has the number zero. -/
inductive PhaseStep where
  | writeTask (index : Int) (path : String) (size : Int) (payload : Int)
  | readTask (index : Int) (path : String) (size : Int) (buffer : Int)
  | prepareTarget (path : String) (mode : Value)
  | discard (index : Int) (path : String)
  | addLate (index : Int)
  | late
  | release
  | collect (workers : Value) (mode : Value) (jobs : Mode → List (Except Fault Outcome))
      (limit : Value) (late : Bool)
  | phase (workers : Value) (settings : Settings) (mode : Value) (size buffer : Int) (late : Bool)
  | storage (step : StorageStep)

/-- The set of late workers that the steps of a phase share. -/
def sharedLate : Nat := 0

namespace Scene

variable {backend : Backend}

/-- Runs a program of a worker. -/
def job {α : Type} (scene : Scene backend) (program : Worker.Program backend.Stream (Except Fault α))
    (view : α → StepAnswer) : StepResult × Scene backend :=
  let (result, world) := scene.world.runJob program
  (stepResult view result, { scene with world })

/-- Runs a program of the main thread. -/
def main {α : Type} (scene : Scene backend)
    (program : Conductor.Program backend.Stream (Except Fault α)) (view : α → StepAnswer) :
    StepResult × Scene backend :=
  let (result, world) := scene.world.run program
  (stepResult view result, { scene with world })

/-- Runs a program of the main thread on a new pool, in a direction that may be none. -/
def onNewPool {α : Type} (scene : Scene backend) (workers mode : Value)
    (program : Mode → Nat → Conductor.Program backend.Stream (Except Fault α))
    (view : α → StepAnswer) : StepResult × Scene backend :=
  -- a pool that cannot be made is told before a direction that does not exist
  match scene.world.checkPool workers with
  | .error fault => (.error (.fault fault), scene)
  | .ok () =>
    let (pool, world) := scene.world.newPool workers ""
    let scene := { scene with world }
    match Mode.ofValue mode with
    | .error fault => (.error (.fault fault), scene)
    | .ok mode => scene.main (program mode pool) view

/-- Takes a step of a phase. -/
def phaseStep (scene : Scene backend) : PhaseStep → StepResult × Scene backend
  | .writeTask index path size payload =>
    scene.job (Worker.writeTask index path size (sample payload.toNat)) .outcome
  | .readTask index path size buffer =>
    scene.job (Worker.readTask index path size buffer) .outcome
  | .prepareTarget path mode =>
    match Mode.ofValue mode with
    | .error fault => (.error (.fault fault), scene)
    | .ok mode => scene.main (Phase.prepareTarget path mode) fun () => .nothing
  | .discard index path => scene.job (Phase.discardLate index path) fun () => .nothing
  | .addLate index =>
    (.ok .nothing, { scene with world := scene.world.addLate sharedLate index })
  | .late => (.ok (.numbers ((scene.world.lateSet sharedLate).indexes)), scene)
  | .release => (.ok .nothing, { scene with world := scene.world.releaseAll })
  | .collect workers mode jobs limit late =>
    scene.onNewPool workers mode (fun mode pool =>
      Phase.collect pool mode ((jobs mode).map fun result => Prog.done result) limit
        (if late then some sharedLate else none)) .outcomes
  | .phase workers settings mode size buffer late =>
    scene.onNewPool workers mode (fun mode pool =>
      Phase.run settings mode pool size buffer (if late then some sharedLate else none)) .outcomes
  | .storage step => scene.storageStep step

end Scene

/-! ## Steps of a run -/

/-- A part of a run. -/
inductive RunStep where
  | prepare
  | run
  | cleanup
  | join
  | sizeInBytes
  | phase (mode : Mode)
  | release
  | sizes
  | listing

/-- A run in progress: its plan, its session, and the pool of the phases that are run on their
own. -/
structure Rehearsed (backend : Backend) where
  scene : Scene backend
  plan : Plan
  session : Session
  pool : Option Nat := none

namespace Rehearsed

variable {backend : Backend}

/-- A run that is about to start, in a world with its first set of late workers. -/
def start (world : World backend) (plan : Plan) : Rehearsed backend :=
  let late := world.lates.length
  { scene := { world := { world with lates := world.lates ++ [LateWorkers.nobody] } }
    plan
    session := { late } }

/-- Takes a step of the run itself. -/
def take {α : Type} (r : Rehearsed backend) (step : Run.Step backend.Stream α)
    (view : α → StepAnswer) : StepResult × Rehearsed backend :=
  let ((result, session), world) := r.scene.world.run (step.run.run r.session)
  (stepResult view result, { r with session, scene := { r.scene with world } })

/-- The pool of the phases that are run on their own, made at the first of them. -/
def ownPool (r : Rehearsed backend) : Except Fault Nat × Rehearsed backend :=
  match r.pool with
  | some pool => (.ok pool, r)
  | none =>
    let workers := Run.poolWorkers r.plan
    match r.scene.world.checkPool workers with
    | .error fault => (.error fault, r)
    | .ok () =>
      let (pool, world) := r.scene.world.newPool workers ""
      (.ok pool, { r with pool := some pool, scene := { r.scene with world } })

/-- Takes a step of the storage. -/
def look (r : Rehearsed backend) (step : StorageStep) : StepResult × Rehearsed backend :=
  let (result, scene) := r.scene.storageStep step
  (result, { r with scene })

/-- Takes a step of a run. -/
def runStep (r : Rehearsed backend) : RunStep → StepResult × Rehearsed backend
  | .prepare => r.take (Run.prepare r.plan) fun () => .nothing
  | .run => r.take (Run.whole r.plan) .tally
  | .cleanup => r.take (Run.cleanup r.plan) .texts
  | .join => r.take Run.join fun () => .nothing
  | .sizeInBytes => r.take Run.sizeInBytes .count
  | .phase mode =>
    match r.ownPool with
    | (.error fault, r) => (.error (.fault fault), r)
    | (.ok pool, r) =>
      let step := match mode with
        | .write => Run.write r.plan pool
        | .read => Run.read r.plan pool
      r.take step .tally
  | .release =>
    (.ok .nothing, { r with scene := { r.scene with world := r.scene.world.releaseAll } })
  | .sizes => r.look .sizes
  | .listing => r.look .listing

end Rehearsed
end Rehearsal
end StoreMeter
