import Rollout.Chain.Message
import Rollout.Fault
import Rollout.Files.Edit
import Rollout.Log
import Rollout.Network.Settings

/-!
# Sessions

A session is everything that deploying acts on: a chain client with a state of its own, the
files, and the records of what was sent, asked for, logged and printed. Actions change a session
and answer a value or a fault; what they changed before a fault stays changed.
-/

set_option autoImplicit false

namespace Rollout

open Rollout.Chain

/-- Who signs messages: an address, and what values are taken for coins in them. -/
structure Signer where
  address : String
  readCoins : Value → Except CoinsFault Coins

/-- A chain client signs for one address. A broadcast answers an outcome or fails, and may
change the client. -/
structure Client (σ : Type) extends Signer where
  broadcast : Transaction → σ → Except Failure Outcome × σ

/-- A session with clients whose state is `σ`. Records are in order. -/
structure Session (σ : Type) where
  chain : σ
  files : Files
  clock : String
  sent : List Transaction
  log : List Log.Entry
  printed : List String
  requests : List String
  connected : List Network.Settings

def Session.start {σ : Type} (chain : σ) (files : Files) (clock : String) : Session σ :=
  ⟨chain, files, clock, [], [], [], [], []⟩

/-- What changes a session and answers a value. -/
abbrev Change (σ α : Type) := StateM (Session σ) α

/-- What changes a session and answers a value or a fault. -/
abbrev Action (σ α : Type) := ExceptT Fault (StateM (Session σ)) α

namespace Session

variable {σ : Type}

def report (entry : Log.Entry) : Change σ Unit :=
  modify fun session => { session with log := session.log ++ [entry] }

def print (text : String) : Change σ Unit :=
  modify fun session => { session with printed := session.printed ++ [text] }

def edit {α : Type} (edit : Files.Edit α) : Action σ α :=
  ExceptT.mk (modifyGet fun session =>
    let (ending, files) := edit.run.run session.files
    (ending.mapError .file, { session with files }))

/-- Broadcasts a transaction. It is recorded before the client answers. -/
def broadcast (client : Client σ) (transaction : Transaction) :
    Change σ (Except Failure Outcome) :=
  modifyGet fun session =>
    let (answer, chain) := client.broadcast transaction session.chain
    (answer, { session with chain, sent := session.sent ++ [transaction] })

end Session

end Rollout
