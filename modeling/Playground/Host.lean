import Playground.Batch
import Playground.Record.File

/-! Telling the page that holds a playground which files are ready to run. -/

namespace Playground

/-- A message to the page. -/
structure Message where
  action : String
  files : List File
deriving DecidableEq, Repr

/-- The action that tells of a batch that is ready. -/
def Message.filesCompiledAction : String := "cmd_files_compiled"

def Message.filesCompiled (files : List File) : Message := ⟨Message.filesCompiledAction, files⟩

def Message.toJson (m : Message) : Json :=
  .object [("action", .string m.action), ("filesCompiled", .array (m.files.map File.toJson))]

def Record.messageFields : List (Record.Field Message) := [
  { name := "action", required := true,
    read := fun v m => return { m with action := ← Record.string v } },
  { name := "filesCompiled", required := true
    read := fun v m => return { m with files := ← Record.list Record.file v } }]

def Record.message : Json → Record.Decoded Message :=
  Record.record "HostMessage" Record.messageFields ⟨"", []⟩ true

/-- A message as one line of JSON. -/
def Message.line (m : Message) : String := m.toJson.render ++ "\n"

/-- Why a message did not get through; `reason` is what the device said. -/
inductive DeliveryError
  | serialize (action reason : String)
  | write (reason : String)
  | flush (reason : String)
deriving DecidableEq, Repr

def DeliveryError.message : DeliveryError → String
  | .serialize action reason => s!"failed to serialize {action} message: {reason}"
  | .write reason => s!"failed to write host message: {reason}"
  | .flush reason => s!"failed to flush host message: {reason}"

/-- A way to the page, with the state `σ` that messages change. -/
structure Channel (σ : Type) where
  post : Message → σ → Except DeliveryError Unit × σ

namespace Channel

/-- Keeps the messages, in the order they were posted. -/
def memory : Channel (List Message) where
  post m posted := (.ok (), posted ++ [m])

end Channel

/-- A device that takes bytes until it is full; it may refuse to flush. -/
structure Device where
  written : List UInt8 := []
  /-- How many bytes it takes in all; without a number it is never full. -/
  capacity : Option Nat := none
  /-- What it says once it is full. -/
  fullReason : String := ""
  /-- What it says when it cannot flush. -/
  flushReason : Option String := none

/-- Writes as many of the bytes as the device still takes, and tells whether that was all. -/
def Device.write (d : Device) (bytes : List UInt8) : Bool × Device :=
  match d.capacity with
  | none => (true, { d with written := d.written ++ bytes })
  | some n =>
    let room := n - d.written.length
    (bytes.length ≤ room, { d with written := d.written ++ bytes.take room })

/-- Writes every message as a line of JSON. -/
def Channel.lines : Channel Device where
  post m device :=
    let (isWritten, device) := device.write m.toJson.render.toUTF8.toList
    if !isWritten then (.error (.serialize m.action device.fullReason), device)
    else
      let (isEnded, device) := device.write "\n".toUTF8.toList
      if !isEnded then (.error (.write device.fullReason), device)
      else
        match device.flushReason with
        | some reason => (.error (.flush reason), device)
        | none => (.ok (), device)

/-- Prepares a batch and tells the page if it is done. The files to run come back: those of the
batch, or the report of the file that failed, of which the page is not told. There is no result if
the batch breaks off. -/
def deliver (channel : Channel σ) (config : Config) (files : List File) (state : σ) :
    Option (Except DeliveryError (List File)) × σ :=
  match ((Batch.run config files).run .start).1 with
  | none => (none, state)
  | some (.done ready) =>
    match channel.post (.filesCompiled ready) state with
    | (.ok (), state) => (some (.ok ready), state)
    | (.error e, state) => (some (.error e), state)
  | some (.failed f) => (some (.ok (Outcome.failed f).files), state)

end Playground
