import SimEngine.Engine.Event
import SimEngine.Engine.Notice
import SimEngine.Parameters
import SimEngine.StepInfo
import SimEngine.World
/-!
# Guest programs

An engine runs code it knows nothing about: systems, callbacks of queries and
events, and factories. `Guest` names the types of that code, and `Program` is
what such code does when it is called: it asks the engine for one thing after
the other, goes on with each answer, and ends with a result, a failure or a
panic. What a program remembers between two calls is its memory, which all
guest code of an engine shares.
-/

namespace SimEngine

/-- The types of the code and data an engine hosts. -/
structure Guest where
  components : ComponentFamily
  /-- What guest code remembers between calls. -/
  Memory : Type
  System : Type
  Callback : Type
  Factory : Type

/-- What happens once an instance of a plugin is gone. -/
inductive Unload where
  /-- The loader counts one instance less. -/
  | counted
  /-- The guest is told. -/
  | announced
  deriving DecidableEq, Repr

/-- Who owns an attached system. -/
inductive Ownership where
  | plugin (name : String) (unload : Option Unload)
  /-- The host may hold the system too. -/
  | shared
  deriving DecidableEq, Repr

/-- A system ready to be attached. -/
structure Attachment (G : Guest) where
  system : G.System
  ownership : Ownership

/-- A request that waits for the next step. -/
inductive Command (G : Guest) where
  | attach (handle : Handle) (attachment : Attachment G) (entity : Entity) (config : Payload)
  | detach (handle : Handle)

/-- What guest code may ask of the engine. -/
inductive Request (G : Guest) where
  | consult
  | revise (f : G.Memory → G.Memory)
  | report (notice : Notice)
  | isAlive (entity : Entity)
  | find (signature : Signature)
  | hasType (entity : Entity) (type : ComponentId)
  | read (entity : Entity) (kind : G.components.Kind)
  | write (entity : Entity) (kind : G.components.Kind) (value : G.components.Value kind)
  | emit (signal : Signal)
  | connect (channel : ChannelKey) (callback : G.Callback)
  | disconnect (connection : Connection)
  | isConnected (connection : Connection)
  | connectionCount (channel : ChannelKey)
  | register (list : Handle) (signature : Signature) (callback : G.Callback)
  | cancel (list : Handle) (query : Nat)
  | clearQueries (list : Handle)
  | queryCount (list : Handle)
  | queueAttach (attachment : Attachment G) (entity : Entity) (config : Payload)
  | queueDetach (handle : Handle)
  | commandCount
  | declare (name : String) (value : Convertible)
  | setParameter (name : String) (value : Convertible)
  | getParameter (name : String)

/-- What a request is answered with. -/
def Request.Answer {G : Guest} : Request G → Type
  | .consult => G.Memory
  | .revise _ => Unit
  | .report _ => Unit
  | .isAlive _ => Bool
  | .find _ => List Entity
  | .hasType _ _ => Bool
  | .read _ kind => Option (G.components.Value kind)
  | .write _ _ _ => Bool
  | .emit _ => Nat
  | .connect _ _ => Connection
  | .disconnect _ => Unit
  | .isConnected _ => Bool
  | .connectionCount _ => Nat
  | .register _ _ _ => Nat
  | .cancel _ _ => Bool
  | .clearQueries _ => Unit
  | .queryCount _ => Nat
  | .queueAttach _ _ _ => Handle
  | .queueDetach _ => Unit
  | .commandCount => Nat
  | .declare _ _ => Except ParameterError Unit
  | .setParameter _ _ => Except ParameterError Unit
  | .getParameter _ => Option Json

/-- What guest code does when it is called. -/
inductive Program (G : Guest) (α : Type) where
  | done (result : α)
  | fail (failure : Failure)
  | panic (panic : Panic)
  | ask (request : Request G) (next : request.Answer → Program G α)

namespace Program

variable {G : Guest} {α β : Type}

/-- Goes on with the result of a program. -/
def bind (p : Program G α) (next : α → Program G β) : Program G β :=
  match p with
  | done a => next a
  | fail f => fail f
  | panic m => panic m
  | ask r k => ask r fun answer => (k answer).bind next

instance : Monad (Program G) where
  pure := done
  bind := bind

/-- Asks for one thing. -/
def request (r : Request G) : Program G r.Answer :=
  ask r done

def consult : Program G G.Memory := request .consult

def revise (f : G.Memory → G.Memory) : Program G Unit := request (.revise f)

def report (notice : Notice) : Program G Unit := request (.report notice)

def isAlive (entity : Entity) : Program G Bool := request (.isAlive entity)

/-- The living entities of a signature. -/
def find (signature : Signature) : Program G (List Entity) := request (.find signature)

def hasType (entity : Entity) (type : ComponentId) : Program G Bool :=
  request (.hasType entity type)

/-- The data of a kind that an entity carries. -/
def read (entity : Entity) (kind : G.components.Kind) :
    Program G (Option (G.components.Value kind)) :=
  request (.read entity kind)

/-- Overwrites data of a kind that an entity carries; tells whether it carries any. -/
def write (entity : Entity) (kind : G.components.Kind) (value : G.components.Value kind) :
    Program G Bool :=
  request (.write entity kind value)

/-- Notifies the subscribers of a channel; tells how many of them returned. -/
def emit (signal : Signal) : Program G Nat := request (.emit signal)

def connect (channel : ChannelKey) (callback : G.Callback) : Program G Connection :=
  request (.connect channel callback)

def disconnect (connection : Connection) : Program G Unit := request (.disconnect connection)

def isConnected (connection : Connection) : Program G Bool := request (.isConnected connection)

def connectionCount (channel : ChannelKey) : Program G Nat := request (.connectionCount channel)

/-- Registers a query; answers its number. -/
def register (list : Handle) (signature : Signature) (callback : G.Callback) : Program G Nat :=
  request (.register list signature callback)

/-- Cancels a query; tells whether it was registered. -/
def cancel (list : Handle) (query : Nat) : Program G Bool := request (.cancel list query)

def clearQueries (list : Handle) : Program G Unit := request (.clearQueries list)

def queryCount (list : Handle) : Program G Nat := request (.queryCount list)

/-- Has a system attached at the beginning of the next step. -/
def queueAttach (attachment : Attachment G) (entity : Entity) (config : Payload) :
    Program G Handle :=
  request (.queueAttach attachment entity config)

def queueDetach (handle : Handle) : Program G Unit := request (.queueDetach handle)

def commandCount : Program G Nat := request .commandCount

/-- Goes on with a result or ends with its failure. -/
def ofExcept (result : Except Failure α) : Program G α :=
  match result with
  | .ok a => done a
  | .error f => fail f

def declare (name : String) (value : Convertible) : Program G Unit :=
  ask (.declare name value) fun answer => ofExcept (answer.mapError fun e => ⟨e.causes⟩)

def setParameter (name : String) (value : Convertible) : Program G Unit :=
  ask (.setParameter name value) fun answer => ofExcept (answer.mapError fun e => ⟨e.causes⟩)

def getParameter (name : String) : Program G (Option Json) := request (.getParameter name)

/-- Runs a program for each item of a list. -/
def forEach {ι : Type} (items : List ι) (body : ι → Program G Unit) : Program G Unit :=
  match items with
  | [] => done ()
  | x :: rest => (body x).bind fun _ => forEach rest body

/-- A program that ends with a result, whatever it is answered: it neither fails nor panics. -/
def Completes : Program G α → Prop
  | done _ => True
  | ask _ next => ∀ answer, (next answer).Completes
  | _ => False

theorem Completes.bind {p : Program G α} {next : α → Program G β} (hp : p.Completes)
    (hnext : ∀ a, (next a).Completes) : (p.bind next).Completes := by
  induction p with
  | done a => exact hnext a
  | fail f => exact hp.elim
  | panic m => exact hp.elim
  | ask r k ih => exact fun answer => ih answer (hp answer)

theorem completes_request (r : Request G) : (request r).Completes :=
  fun _ => trivial

theorem completes_ask {r : Request G} {next : r.Answer → Program G α}
    (hnext : ∀ answer, (next answer).Completes) : ((request r).bind next).Completes :=
  hnext

theorem completes_forEach {ι : Type} {body : ι → Program G Unit}
    (hbody : ∀ x, (body x).Completes) (items : List ι) : (forEach items body).Completes := by
  induction items with
  | nil => exact trivial
  | cons x rest ih => exact (hbody x).bind fun _ => ih

end Program

/-- What guest code is told when it is configured. -/
structure ConfigureContext where
  handle : Handle
  entity : Entity
  config : Payload

/--
What the guest's code does: the program behind each call, and what systems show. A call that the
engine guards may end in a panic. It guards neither the end of a system nor what follows it, so
these complete; nor is it guarded to ask a system for its name or for what it offers, which are
answers here, and no programs.
-/
structure Behavior (G : Guest) where
  /-- The name under which a system is reported; to ask for it does not panic. -/
  name : G.System → G.Memory → String
  /-- Whether a system offers an interface at present; to ask for it does not panic. -/
  offers : G.System → G.Memory → Capability → Bool
  configure : G.System → ConfigureContext → Program G Unit
  configureParameters : G.System → Program G Unit
  phase : StepPhase → G.System → StepInfo → Program G Unit
  onQuery : G.Callback → StepInfo → Entity → Program G Unit
  onSignal : G.Callback → Signal → Program G Unit
  /-- Makes the system of a plugin. -/
  construct : G.Factory → PluginSpec → Program G G.System
  /-- The end of a system that a plugin owned. -/
  discard : G.System → Program G Unit
  /-- The engine gives back a system that it shared with the host. -/
  giveBack : G.System → Program G Unit
  /-- A plugin is told that its instance is gone. -/
  unloaded : String → Program G Unit
  discard_completes : ∀ system, (discard system).Completes
  giveBack_completes : ∀ system, (giveBack system).Completes
  unloaded_completes : ∀ plugin, (unloaded plugin).Completes
  /-- Whether what the guest remembers can still reach the queue of requests. -/
  memoryHoldsQueue : G.Memory → Bool
  /-- Whether a callback can still reach the queue of requests. -/
  callbackHoldsQueue : G.Callback → Bool
  /-- How many notifications may be in progress at once. -/
  depth : Nat

end SimEngine
