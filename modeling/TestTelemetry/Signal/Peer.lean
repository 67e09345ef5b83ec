/-
The other end of a connection.

A peer is given a line and answers with bytes; giving it a line may change what it
answers next.  Nobody answers where nobody listens.

* `Peer` — what answers lines, with a state of its own;
* `Peer.send` — give it a signal and read its response;
* `Peer.settings`, `Peer.repoIndex`, `Peer.deliver` — what a worker has to say.
-/
import TestTelemetry.Signal.Client

namespace TestTelemetry

/-- What answers a line on a connection; no bytes come from where nobody listens. -/
abbrev Peer (σ : Type) := List Char → σ → Option (List UInt8) × σ

namespace Peer

variable {σ : Type}

/-- Where nobody listens. -/
def nobody : Peer σ := fun _ s => (none, s)

variable (peer : Peer σ) (s : σ)

/-- Give a signal to a peer and read what it answers. -/
def send {α : Type} (signal : Signal) (read : (List Char → Option (List UInt8)) → α) : α × σ :=
  let (reply, s) := peer (Client.requestLine signal) s
  (read fun _ => reply, s)

/-- Ask for the settings of a module. -/
def settings (identity : WorkerIdentity) (module : String) :
    Except ClientError ExecutionSettings × σ :=
  send peer s (.moduleSettings ⟨identity, module⟩) fun reply =>
    Client.requestSettings reply identity module

/-- Ask for the index of the repository. -/
def repoIndex : Except ClientError RepoIndex × σ :=
  send peer s .repoIndex Client.requestRepoIndex

/-- Deliver the result of a module.  What is answered does not matter. -/
def deliver (result : ModuleResult) : σ := (send peer s (.moduleResult result) fun _ => ()).2

end Peer

end TestTelemetry
