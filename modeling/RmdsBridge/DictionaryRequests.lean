import RmdsBridge.DictionaryDownload

namespace RmdsBridge

/-- What waits on the request queue: `DictionaryRequestCb` or `ClientDictionaryRequestCb`. -/
inductive DictionaryRequest
  | upa
  | client
  deriving DecidableEq, Repr

structure DictionarySession (Raw : Type*) where
  upaDictionary : UPADictionary Raw
  requestQueue : List DictionaryRequest := []
  requested : List DictionaryKind := []
  dictionaryReply : Option ℕ := none
  sentDictionary : Bool := false
  sent : List ℕ := []

inductive DictionaryEvent (Part : Type*)
  | setDictionaryReply (dictionaryReply : ℕ) (queued : Bool)
  | requestDictionary (queued : Bool)
  | dispatch (sends : DictionaryKind → Bool)
  | respond (msg : DictionaryMsg Part)

namespace DictionarySession

variable {Raw Part : Type*} (api : RsslDictionaryApi Raw Part)

def isComplete (s : DictionarySession Raw) : Bool := s.upaDictionary.isComplete api

def dictionaryUpdate (s : DictionarySession Raw) (dictionaryComplete : Bool) : DictionarySession Raw :=
  match s.dictionaryReply with
  | some i =>
    if dictionaryComplete ∧ ¬ s.sentDictionary then { s with sentDictionary := true, sent := s.sent ++ [i] }
    else s
  | none => s

def enqueue (s : DictionarySession Raw) (request : DictionaryRequest) (queued : Bool) :
    DictionarySession Raw :=
  if queued then { s with requestQueue := s.requestQueue ++ [request] } else s

def setDictionaryReply (s : DictionarySession Raw) (dictionaryReply : ℕ) (queued : Bool) :
    DictionarySession Raw :=
  { s with dictionaryReply := some dictionaryReply }.enqueue .client queued

def requestDictionary (s : DictionarySession Raw) (queued : Bool) : DictionarySession Raw :=
  if s.isComplete api then s.dictionaryUpdate true else s.enqueue .upa queued

def clientDictionaryRequest (s : DictionarySession Raw) : DictionarySession Raw :=
  if s.isComplete api then s.dictionaryUpdate true else s

def dispatch (s : DictionarySession Raw) (sends : DictionaryKind → Bool) : DictionarySession Raw :=
  match s.requestQueue with
  | [] => s
  | .upa :: rest =>
    { s with requestQueue := rest, requested := s.requested ++ s.upaDictionary.sendRequest sends }
  | .client :: rest => { s with requestQueue := rest }.clientDictionaryRequest api

def respond (s : DictionarySession Raw) (msg : DictionaryMsg Part) : DictionarySession Raw :=
  let (d, told) := s.upaDictionary.processDictionaryResponse api msg
  let s := { s with upaDictionary := d }
  told.elim s s.dictionaryUpdate

def step (s : DictionarySession Raw) : DictionaryEvent Part → DictionarySession Raw
  | .setDictionaryReply dictionaryReply queued => s.setDictionaryReply dictionaryReply queued
  | .requestDictionary queued => s.requestDictionary api queued
  | .dispatch sends => s.dispatch api sends
  | .respond msg => s.respond api msg

end DictionarySession

end RmdsBridge
