import Mathlib.Data.List.AList

/-!
The data of the triple manager of an MPC node (`node/src/protocol/triple.rs`): triple ids,
the messages the manager sends, the two calls it makes into cait-sith, and its state.

The source keeps its triples and generators in `HashMap`s. Here they are association lists
with distinct keys (`AList`); the order of a list stands for the unspecified iteration order
of the map, so a result about every list is a result about every order.
-/

namespace MpcNode

abbrev TripleId := UInt64

/-- A participant of the protocol (cait-sith's `Participant`, a `u32`). -/
structure Participant where
  id : UInt32
  deriving DecidableEq, Repr

abbrev MessageData := List UInt8

/-- What a poked protocol asks for (cait-sith's `Action`). -/
inductive Action (T : Type)
  | wait
  | sendMany (data : MessageData)
  | sendPrivate (p : Participant) (data : MessageData)
  | «return» (output : T)

/-- cait-sith's `ProtocolError`: a protocol aborted. -/
structure ProtocolError where
  msg : String
  deriving DecidableEq, Repr

/-- cait-sith's `InitializationError`: a protocol could not be started. -/
structure InitializationError where
  msg : String
  deriving DecidableEq, Repr

/-- Modelled from the spec: `TripleMessage` is declared in `protocol/message.rs`, which is
not here; these are its fields, the four that `poke` fills in. -/
structure TripleMessage where
  id : TripleId
  epoch : UInt64
  «from» : Participant
  data : MessageData
  deriving DecidableEq, Repr

/-- A completed triple. `S` and `P` are cait-sith's `TripleShare` and `TriplePub`, which the
manager only stores. -/
structure Triple (S P : Type) where
  id : TripleId
  share : S
  public : P

/-- An ongoing triple generator. -/
structure TripleGenerator (σ : Type) where
  /-- Ongoing cait-sith triple generation protocol, in state `σ`. -/
  protocol : σ
  /-- Whether this triple generation was initiated by the current node. -/
  mine : Bool

/-- The two calls into cait-sith the manager makes: `generate_triple`, which starts a
protocol, and `Protocol::poke` on a protocol of state `σ`, whose output is a share and its
public part. Nothing is assumed of either: a result about every `CaitSith` holds for every
behaviour of the protocols. -/
structure CaitSith (σ S P : Type) where
  generateTriple : List Participant → Participant → Nat → Except InitializationError σ
  poke : σ → Except ProtocolError (Action (S × P) × σ)

/-- Abstracts how triples are generated by providing a way to request a new triple that will
be complete some time in the future and a way to take an already generated triple. -/
structure TripleManager (σ S P : Type) where
  /-- Completed unspent triples. -/
  triples : AList fun _ : TripleId => Triple S P
  /-- Ongoing triple generation protocols. -/
  generators : AList fun _ : TripleId => TripleGenerator σ
  /-- List of triple ids generation of which was initiated by the current node. -/
  mine : List TripleId
  participants : List Participant
  me : Participant
  threshold : Nat
  epoch : UInt64

namespace TripleManager

variable {σ S P : Type}

def new (participants : List Participant) (me : Participant) (threshold : Nat)
    (epoch : UInt64) : TripleManager σ S P :=
  ⟨∅, ∅, [], participants, me, threshold, epoch⟩

/-- Returns the number of unspent triples available in the manager. -/
def len (s : TripleManager σ S P) : Nat := s.triples.entries.length

/-- Returns the number of unspent triples assigned to this node. -/
def myLen (s : TripleManager σ S P) : Nat := s.mine.length

/-- Returns the number of unspent triples we will have in the manager once all ongoing
generation protocols complete. -/
def potentialLen (s : TripleManager σ S P) : Nat :=
  s.triples.entries.length + s.generators.entries.length

end TripleManager

/-- A protocol that takes the steps of a list, one a poke, and waits once the list is spent.
Every finite behaviour of a protocol within one manager poke is one of these. -/
def Script (S P : Type) := List (Except ProtocolError (Action (S × P)))

/-- One poke of a scripted protocol. -/
def Script.poke {S P : Type} : Script S P → Except ProtocolError (Action (S × P) × Script S P)
  | [] => .ok (.wait, [])
  | .error e :: _ => .error e
  | .ok a :: rest => .ok (a, rest)

/-- cait-sith with scripted protocols: every protocol starts on `start`. -/
def Script.caitSith {S P : Type} (start : Script S P) : CaitSith (Script S P) S P :=
  ⟨fun _ _ _ => .ok start, Script.poke⟩

end MpcNode
