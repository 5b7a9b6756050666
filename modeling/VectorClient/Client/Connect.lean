/-
# VectorClient.Client.Connect — making a client

A client is made by opening a channel to the target of its connection, with
credentials if the connection is secure.  Making credentials or a channel can
fail; such a failure is a connection error if it is one that settings explain,
and leaves as it is otherwise.  A channel that does not get ready in time is
kept all the same: calls on it report transport errors until the server is up.
-/
import VectorClient.Client.Basic
import VectorClient.Failure

namespace VectorClient

set_option autoImplicit false

/-- How credentials or a channel fail to be made. -/
inductive FactoryFault where
  | failed (e : RpcError)
  | raised (r : Raised)
  deriving Repr

/-- What the outside does when a client is made. -/
structure Transport where
  credentialsFault : Option FactoryFault
  channelFault : Option FactoryFault
  ready : Bool
  deriving Repr

/-- What the outside is asked for when a client is made, in order. -/
inductive ChannelRequest where
  | credentials (rootCerts privateKey certificateChain : Option (List UInt8))
  | channel (target : String) (secure : Bool) (options : List (String × Value))
  | awaitReady (timeout : Number.Double)
  | cancelReady
  deriving Repr

/-- Why no client is made. -/
inductive ConnectFault where
  | failure (f : Failure)
  /-- The channel failed. -/
  | unreachable (target message : String)
  /-- The settings were refused. -/
  | settings (target message : String)
  | raised (r : Raised)
  deriving Repr

namespace ConnectFault

def message : ConnectFault → String
  | .failure f => f.message
  | .unreachable target message => "Failed to connect to Milvus at " ++ target ++ ": " ++ message
  | .settings target message => "Invalid channel settings for " ++ target ++ ": " ++ message
  | .raised r => r.message

/-- What a failing factory means for the client. -/
def ofFactory (target : String) : FactoryFault → ConnectFault
  | .failed e => .unreachable target e.display
  | .raised (.refusal message) => .settings target message
  | .raised (.wrongType message) => .settings target message
  | .raised r => .raised r

end ConnectFault

namespace Connection

/-- The requests for credentials, if the connection is secure. -/
def credentialRequests (p : Connection) : List ChannelRequest :=
  if p.secure then [.credentials p.rootCerts p.privateKey p.certificateChain] else []

/-- Opens a channel: what was asked for, and whether it is there. -/
def openChannel (p : Connection) (t : Transport) : List ChannelRequest × Except ConnectFault Unit :=
  match p.channelOptions with
  | .error f => ([], .error (.failure f))
  | .ok options =>
      let asked := p.credentialRequests
      match if p.secure then t.credentialsFault else none with
      | some fault => (asked, .error (.ofFactory p.target fault))
      | none =>
          let asked := asked ++ [.channel p.target p.secure options]
          match t.channelFault with
          | some fault => (asked, .error (.ofFactory p.target fault))
          | none => (asked, .ok ())

/-- Makes the world of a new client: what was asked for, and the world if there
is one.  Whether the channel is ready shows in the log alone. -/
def connect {σ τ : Type} [Timeline τ] (p : Connection) (t : Transport) (server : σ) :
    List ChannelRequest × Except ConnectFault (World σ τ) :=
  match p.openChannel t with
  | (asked, .error fault) => (asked, .error fault)
  | (asked, .ok ()) =>
      let world : World σ τ := .initial server
      if t.ready then
        (asked ++ [.awaitReady p.connectTimeout], .ok (world.log (.connected p.target)))
      else
        (asked ++ [.awaitReady p.connectTimeout, .cancelReady],
          .ok (world.log (.unreachable p.target p.connectTimeout)))

end Connection

end VectorClient
