/-
  LineShell.Sink

  An output stream of the shell. A `Device` decides how the stream answers each request,
  in view of all earlier ones, so that any pattern of failing writes and flushes is the
  behaviour of some device. A `Sink` is a stream in use: it knows what was asked of it
  and what came through.

  Processes started by the shell write past the device, straight to where the stream
  leads. So a sink has two views: `own`, what the shell itself got through, and `shown`,
  all bytes in the order in which they arrived. Each operation is described by what it
  adds to them.
-/
import LineShell.IoError
import LineShell.Text.Utf8

namespace LineShell

/-- What the shell can ask of an output stream. -/
inductive Request where
  | write (bytes : Bytes)
  | flush
  deriving DecidableEq, Repr

namespace Request

/-- How many bytes a request offers. -/
def size : Request → Nat
  | write bytes => bytes.length
  | flush => 0

/-- How many bytes requests offer in all. -/
def sizeOfAll : List Request → Nat
  | [] => 0
  | request :: later => request.size + sizeOfAll later

end Request

/-- How a stream answers, given the earlier requests, the latest first. -/
structure Device where
  /-- `none` if all bytes are accepted, otherwise how many of them are accepted before
      the write fails, and the failure. -/
  onWrite : List Request → Bytes → Option (Nat × IoError)
  /-- `none` if the flush succeeds. -/
  onFlush : List Request → Option IoError

namespace Device

/-- A stream that never fails. -/
def reliable : Device := ⟨fun _ _ => none, fun _ => none⟩

/-- A stream that accepts `limit` bytes in all and fails once more are offered. Every
    earlier write has used up what it offered, or else all that was left. -/
def limited (limit : Nat) (error : IoError) : Device where
  onWrite earlier bytes :=
    let left := limit - Request.sizeOfAll earlier
    if bytes.length ≤ left then none else some (left, error)
  onFlush _ := none

/-- The stream with every flush failing. -/
def withFlushError (device : Device) (error : IoError) : Device :=
  { device with onFlush := fun _ => some error }

end Device

/-- Bytes that came through a stream. -/
inductive Chunk where
  /-- Bytes that the shell wrote. -/
  | own (bytes : Bytes)
  /-- Bytes that a process started by the shell wrote. -/
  | foreign (bytes : Bytes)
  deriving DecidableEq, Repr

namespace Chunk

/-- All bytes of a chunk. -/
def shown : Chunk → Bytes
  | .own bytes => bytes
  | .foreign bytes => bytes

/-- The bytes of a chunk that the shell wrote. -/
def byShell : Chunk → Bytes
  | .own bytes => bytes
  | .foreign _ => []

end Chunk

/-- An output stream in use. -/
structure Sink where
  device : Device
  /-- The requests so far, the latest first. -/
  earlier : List Request := []
  /-- What came through, the latest first. -/
  chunks : List Chunk := []

namespace Sink

/-- All bytes that came through. -/
def shown (sink : Sink) : Bytes := sink.chunks.reverse.flatMap Chunk.shown

/-- The bytes of the shell that came through. -/
def own (sink : Sink) : Bytes := sink.chunks.reverse.flatMap Chunk.byShell

/-- Records what came through. -/
def add (sink : Sink) (chunk : Chunk) : Sink :=
  { sink with chunks := chunk :: sink.chunks }

@[simp] theorem shown_add (sink : Sink) (chunk : Chunk) :
    (sink.add chunk).shown = sink.shown ++ chunk.shown := by
  simp [shown, add]

@[simp] theorem own_add (sink : Sink) (chunk : Chunk) :
    (sink.add chunk).own = sink.own ++ chunk.byShell := by
  simp [own, add]

/-- Records a request. -/
def ask (sink : Sink) (request : Request) : Sink :=
  { sink with earlier := request :: sink.earlier }

@[simp] theorem shown_ask (sink : Sink) (request : Request) :
    (sink.ask request).shown = sink.shown := rfl

@[simp] theorem own_ask (sink : Sink) (request : Request) :
    (sink.ask request).own = sink.own := rfl

/-- Writes all of the given bytes. Nothing is asked of the stream if there are none. If
    the write fails, a first part of the bytes may have come through. -/
def write (sink : Sink) (bytes : Bytes) : Except IoError Unit × Sink :=
  if bytes = [] then (.ok (), sink)
  else
    let asked := sink.ask (.write bytes)
    match sink.device.onWrite sink.earlier bytes with
    | none => (.ok (), asked.add (.own bytes))
    | some (count, error) => (.error error, asked.add (.own (bytes.take count)))

/-- Writes pieces one after the other, up to the first failure. -/
def writeAll (sink : Sink) : List Bytes → Except IoError Unit × Sink
  | [] => (.ok (), sink)
  | piece :: pieces =>
    match sink.write piece with
    | (.ok (), sink) => sink.writeAll pieces
    | (.error error, sink) => (.error error, sink)

/-- Asks the stream to pass on what it may hold back. -/
def flush (sink : Sink) : Except IoError Unit × Sink :=
  match sink.device.onFlush sink.earlier with
  | none => (.ok (), sink.ask .flush)
  | some error => (.error error, sink.ask .flush)

/-- Records what a process started by the shell wrote. -/
def receive (sink : Sink) (bytes : Bytes) : Sink := sink.add (.foreign bytes)

end Sink
end LineShell
