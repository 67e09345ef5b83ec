/-
The session's side of a connection.

A connection carries lines; every line that is not blank gets one response, in
order.  A line that is no text ends the connection.  Signals go to the handler of
their kind, and a handler that fails or breaks off is answered for by an error.

* `dispatch` — the response to one line;
* `serve` — all responses on a connection;
* `SignalServer` — handlers and the address they are reached at.
-/
import TestTelemetry.Session.Attempt
import TestTelemetry.Signal.Codec
import TestTelemetry.Network.Address
import TestTelemetry.Data.Keyed
import TestTelemetry.Text.Utf8
import TestTelemetry.Text.Quoted

namespace TestTelemetry

/-- What is done on a signal, and to the state behind the server. -/
abbrev SignalHandler (σ : Type) := Signal → σ → Attempt Response × σ

/-- Handlers for some kinds of signals. -/
abbrev SignalHandlers (σ : Type) := Keyed SignalKind (SignalHandler σ)

variable {σ : Type}

/-! ### One line -/

def undecodableMessage (e : LineError) : String := "Could not decode signal: " ++ e.message

def noHandlerMessage (k : SignalKind) : String :=
  "No handler registered for signal type " ++ k.name

def brokeOffMessage (k : SignalKind) (text : Option String) : String :=
  "Handler for " ++ k.name ++ " panicked: " ++ text.getD unknownBreak

/-- The response that stands for the end of a handler. -/
def responseOf (k : SignalKind) : Attempt Response → Response
  | .done r => r
  | .failed causes => .error (causesMessage causes)
  | .brokeOff text => .error (brokeOffMessage k text)

/-- The response to a signal. -/
def handle (handlers : SignalHandlers σ) (signal : Signal) (s : σ) : Response × σ :=
  match handlers.find? signal.kind with
  | none => (.error (noHandlerMessage signal.kind), s)
  | some f =>
    let (answer, s) := f signal s
    (responseOf signal.kind answer, s)

/-- The response to a line. -/
def dispatch (handlers : SignalHandlers σ) (line : List Char) (s : σ) : Response × σ :=
  match decodeLine Signal.decoder line with
  | .error e => (.error (undecodableMessage e), s)
  | .ok signal => handle handlers signal s

/-! ### A connection -/

/-- The responses to lines of text, one to each that is not blank. -/
def serveLines (handlers : SignalHandlers σ) : List (List Char) → σ → List Response × σ
  | [], s => ([], s)
  | line :: rest, s =>
    if line.all Text.isBlank then serveLines handlers rest s
    else
      let (r, s) := dispatch handlers line s
      let (rs, s) := serveLines handlers rest s
      (r :: rs, s)

/-- The lines of a sequence of bytes.  What follows the last newline is a line only if it
is not empty. -/
def byteLines (bytes : List UInt8) : List (List UInt8) := endedPieces 10 bytes

/-- The lines up to the first that is no text. -/
def textLines (lines : List (List UInt8)) : List (List Char) :=
  match lines with
  | [] => []
  | l :: ls =>
    match Text.decode? l with
    | some cs => cs :: textLines ls
    | none => []

/-- All responses on a connection. -/
def serve (handlers : SignalHandlers σ) (bytes : List UInt8) (s : σ) : List Response × σ :=
  serveLines handlers (textLines (byteLines bytes)) s

/-! ### The server -/

/-- Why a server refuses to do something. -/
inductive ServerError
  | bind (address : SocketAddress)
  | duplicateHandler (kind : SignalKind)
  | alreadyStarted
deriving DecidableEq

def ServerError.message : ServerError → String
  | bind address => "failed to bind signal server to " ++ address.display
  | duplicateHandler kind => "a handler for " ++ kind.name ++ " signals is already registered"
  | alreadyStarted => "signal server is already started"

/-- Handlers, the address that is asked for, and the address that was got. -/
structure SignalServer (σ : Type) where
  requested : SocketAddress
  handlers : SignalHandlers σ
  address : Option SocketAddress

namespace SignalServer

/-- This machine, at any port that is free. -/
def anyPort : SocketAddress := { ip := .loopback, port := 0 }

def new (requested : SocketAddress) : SignalServer σ := ⟨requested, .empty, none⟩

def isRunning (s : SignalServer σ) : Bool := s.address.isSome

/-- Add a handler.  There is one for each kind, and none is added while the server runs. -/
def register (s : SignalServer σ) (k : SignalKind) (f : SignalHandler σ) :
    Except ServerError (SignalServer σ) :=
  if s.isRunning then .error .alreadyStarted
  else if s.handlers.contains k then .error (.duplicateHandler k)
  else .ok { s with handlers := s.handlers.set k f }

/-- Start to listen at the address that was got; none is got when the one asked for is taken. -/
def start (s : SignalServer σ) (got : Option SocketAddress) :
    Except ServerError (SignalServer σ) :=
  if s.isRunning then .error .alreadyStarted
  else
    match got with
    | none => .error (.bind s.requested)
    | some address => .ok { s with address := some address }

def describe (s : SignalServer σ) : String :=
  Text.described "SignalServer" [("bind_addr", s.requested.display),
    ("handlers", "[" ++ String.intercalate ", " (s.handlers.keys.map SignalKind.title) ++ "]"),
    ("address", (s.address.map fun a => "Some(" ++ a.display ++ ")").getD "None")]

/-- Listen no more. -/
def stop (s : SignalServer σ) : SignalServer σ := { s with address := none }

end SignalServer

end TestTelemetry
