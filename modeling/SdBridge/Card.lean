import SdBridge.Card.Commands
import SdBridge.Card.Data

/-!
A read-only high-capacity SD card over an image. Its halves share two words, each written by one
of them: the posted ticket belongs to the command half, the finished one to the data half.
-/
namespace SdBridge

structure Card (β : Type) where
  commands : Card.Commands
  data : Card.Data β

namespace Card

variable {β : Type}

def ofImage [Image.Store β] (image : β) (identity : Identity := {}) : Card β :=
  ⟨.ofImage (Image.Store.sectorCount image) identity, { store := image }⟩

def dispatch (request : Request) (response : Response) (card : Card β) : Answer (Card β) :=
  let synced := card.commands.sync card.data.finished
  match Commands.handle request ⟨synced, response⟩ with
  | .ok length ⟨commands, response⟩ => ⟨.ok length, response, { card with commands }⟩
  | .error failure ⟨commands, response⟩ => ⟨.error failure, response, { card with commands }⟩

def takeBlockRequest (card : Card β) : Option BlockRequest × Card β :=
  (card.commands.pending,
    { card with commands := { card.commands with pending := none } })

def dataReady [Image.Store β] (card : Card β) : Served Bool (Card β) :=
  let served := card.data.ready card.commands.posted
  ⟨served.answer, { card with data := served.state }, served.log⟩

def nextByte (card : Card β) : Served UInt8 (Card β) :=
  let (byte, data) := card.data.next
  ⟨.ok byte, { card with data }, []⟩

instance : Responder (Card β) := ⟨dispatch, takeBlockRequest⟩

instance [Image.Store β] : ByteSource (Card β) := ⟨dataReady, nextByte⟩

end Card
end SdBridge
