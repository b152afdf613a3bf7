import ShowRemote.CommandLine.Run
import ShowRemote.Http.Transfer
import Std.Async.DNS
import Std.Async.TCP
import Std.Async.Timer
import Std.Time.DateTime

/-!
The program: it reads the settings file and the environment, holds the dialogue with the player over
TCP connections, and writes to the standard streams. Players behind TLS cannot be reached.
-/

set_option autoImplicit false

namespace ShowRemote.Main

open CommandLine (Dialogue Ending Notice)
open Http (Exchange Outgoing)
open Std.Async (Async)

def fileFault (e : IO.Error) : Settings.FileFault :=
  match e with
  | .noFileOrDirectory _ _ _ => .notFound
  | .inappropriateType _ 20 _ => .notADirectory
  | .inappropriateType _ _ _ => .isADirectory
  | other => .other (toString other)

def readFile (path : String) : IO (Except Settings.FileFault (List UInt8)) := do
  try
    let content ← IO.FS.readBinFile path
    return .ok content.toList
  catch e => return .error (fileFault e)

def settingNames : List String :=
  ["SHOWCTL_BASE_URL", "APP__BASE_URL", "APP__TIMEOUT_SECS", "APP__POLL_INTERVAL_MS",
    "APP__COMMAND_PATH"]

def readEnvironment : IO Settings.Environment := do
  let values ← settingNames.mapM fun name => return (name, ← IO.getEnv name)
  return fun name => (values.lookup name).join

def resolveHost : Url.Host → Async (List Std.Net.IPAddr)
  | .domain name => do
    return (← Std.Async.DNS.getAddrInfo (String.ofList name) "").toList
  | .ipv4 a =>
    let byte (n : Nat) : UInt8 := UInt8.ofNat (a / Nat.pow 256 n % 256)
    return [.v4 (.ofParts (byte 3) (byte 2) (byte 1) (byte 0))]
  | .ipv6 pieces =>
    let piece (n : Nat) : UInt16 := UInt16.ofNat (pieces.getD n 0)
    return [.v6 (.ofParts (piece 0) (piece 1) (piece 2) (piece 3) (piece 4) (piece 5) (piece 6)
      (piece 7))]

def socketAddress (port : UInt16) : Std.Net.IPAddr → Std.Net.SocketAddress
  | .v4 addr => .v4 ⟨addr, port⟩
  | .v6 addr => .v6 ⟨addr, port⟩

def connect (port : UInt16) : List Std.Net.IPAddr → Async (Option Std.Async.TCP.Socket.Client)
  | [] => return none
  | addr :: others => do
    let client ← Std.Async.TCP.Socket.Client.mk
    try
      client.connect (socketAddress port addr)
      return some client
    catch _ => connect port others

partial def receive (client : Std.Async.TCP.Socket.Client) (o : Outgoing) (bytes : List UInt8) :
    Async Exchange := do
  let more ← client.recv? 65536
  let bytes := bytes ++ (more.map ByteArray.toList).getD []
  match Http.receive? o.readsBody more.isNone (bytes.length + 1) bytes with
  | some exchange => return exchange
  | none => receive client o bytes

def converse (client : Std.Async.TCP.Socket.Client) (o : Outgoing) : Async Exchange := do
  try
    client.send (ByteArray.mk o.bytes.toArray)
    receive client o []
  catch _ => return .closed

def attempt (o : Outgoing) : Async Exchange := do
  match o.url.authority, decide (o.url.scheme = "http".toList) with
  | some authority, true =>
    try
      match ← connect (UInt16.ofNat (authority.port.getD 80)) (← resolveHost authority.host) with
      | some client => converse client o
      | none => return .unreachable
    catch _ => return .unreachable
  | _, _ => return .unreachable

def exchange (timeoutMs : Nat) (o : Outgoing) : IO Exchange :=
  Async.block <| Async.race (attempt o) do
    Std.Async.sleep (Std.Time.Millisecond.Offset.ofNat timeoutMs)
    return .silent

def hold {α : Type} : Dialogue α → IO α
  | .done a => return a
  | .send request timeout next => do hold (next (← exchange timeout request))
  | .print text next => do
    IO.print text
    (← IO.getStdout).flush
    hold next
  | .pause ms next => do
    IO.sleep (UInt32.ofNat (min ms (Nat.pow 2 32 - 1)))
    hold (next ())

def padded (width n : Nat) : String :=
  String.ofList (List.replicate (width - (toString n).length) '0') ++ toString n

def timeText : IO String := do
  let now := (← Std.Time.Timestamp.now).toDurationSinceUnixEpoch
  let t := Std.Time.PlainDateTime.ofWallTime (.ofDuration now)
  return padded 4 t.year.toInt.toNat ++ "-" ++ padded 2 t.month.val.toNat ++ "-"
    ++ padded 2 t.day.val.toNat ++ "T" ++ padded 2 t.hour.val.toNat ++ ":"
    ++ padded 2 t.minute.val.toNat ++ ":" ++ padded 2 t.second.val.toNat ++ "."
    ++ padded 9 t.nanosecond.val.toNat ++ "+00:00"

/-- The files of a run: only the one that settings are read from. -/
def readFiles (arguments : List String) : IO Settings.FileReader := do
  let path :=
    match CommandLine.parse arguments with
    | .run i => i.config.getD Settings.standardFile
    | _ => Settings.standardFile
  let content ← readFile path
  return fun p => if p = path then content else .error .notFound

end ShowRemote.Main

open ShowRemote in
def main (arguments : List String) : IO UInt32 := do
  let files ← Main.readFiles arguments
  let env ← Main.readEnvironment
  let ending ← Main.hold (CommandLine.run arguments files env)
  let time ← Main.timeText
  for notice in ending.notices do
    for line in notice.lines time do
      IO.eprintln line
  if ending.exit = CommandLine.Ending.misuse then IO.eprint (CommandLine.helpText none)
  return UInt32.ofNat ending.exit
