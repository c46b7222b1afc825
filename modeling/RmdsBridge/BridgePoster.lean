import RmdsBridge.PostManager
import RmdsBridge.Subscription

namespace RmdsBridge

abbrev RsslRet := ℤ

abbrev RsslRet.success : RsslRet := 0

/-- The message statuses the poster names; any other code a message carries is `other`. -/
inductive MamaMsgStatus
  | ok
  | lineDown
  | noSubscribers
  | badSymbol
  | platformStatus
  | notEntitled
  | notPermissioned
  | possiblyStale
  | unknown
  | other (code : ℤ)
  deriving DecidableEq, Repr

inductive PublishedType
  | initial
  | refresh
  | update
  | other
  deriving DecidableEq, Repr

/-- A message given to a poster: the fields the poster itself reads, `none` where the message lacks one. -/
structure MamaMsg where
  msgType : Option PublishedType
  msgStatus : Option MamaMsgStatus
  seqNum : Option ℤ
  deriving DecidableEq, Repr

structure PublisherPostMessageReply where
  replyAddr : String
  inbox : ℕ
  deriving DecidableEq, Repr

/-- What a post carries. The text of a status names `status` and, when there is one, the sequence number. -/
inductive PostPayload
  | refresh (dataState : RsslDataState)
  | update
  | status (status : MamaMsgStatus) (dataState : RsslDataState) (textSeqNum : Option ℤ)
  deriving DecidableEq, Repr

structure RsslPostMsg where
  postId : ℕ
  hasMsgKey : Bool
  seqNum : Option ℤ
  payload : PostPayload
  deriving DecidableEq, Repr

structure PosterConfig where
  symbol : String
  useSeqNum : Bool
  postOnStream : Bool
  useCallbacks : Bool
  sendAckMessages : Bool
  deriving DecidableEq, Repr

/-- Of the poster's own posts, which need not be told from those of others. -/
abbrev PosterRecord := UPAPostRecord Unit (Option PublisherPostMessageReply)

abbrev PosterManager := UPAPostManager Unit (Option PublisherPostMessageReply)

structure BuildOutcome where
  getBuffer : Bool
  hostByName : RsslRet
  setIteratorBuffer : RsslRet
  encodeMsgInit : RsslRet
  encodeNonRWFInit : RsslRet
  encodeFields : Bool
  encodeNonRWFComplete : RsslRet
  encodeMsgComplete : RsslRet
  written : Bool
  deriving DecidableEq, Repr

structure StatusOutcome where
  hostByName : RsslRet
  getBuffer : Bool
  setIteratorBuffer : RsslRet
  encodeMsgInit : RsslRet
  encodeStatusInit : RsslRet
  encodeStatusComplete : RsslRet
  encodeMsgComplete : RsslRet
  written : Bool
  deriving DecidableEq, Repr

structure Posting where
  lastMsgStatus : MamaMsgStatus := .ok
  inFlightPosts : List ℕ := []
  manager : PosterManager := {}
  channel : List RsslPostMsg := []
  unanswered : List PosterRecord := []
  deriving DecidableEq, Repr

namespace Posting

def addPost (s : Posting) (reply : Option PublisherPostMessageReply) : ℕ × Posting :=
  ((s.manager.addPost () reply).1, { s with manager := (s.manager.addPost () reply).2 })

def sendUPAMessage (s : Posting) (written : Bool) (post : RsslPostMsg)
    (reply : Option PublisherPostMessageReply) : Posting :=
  if written then
    { s with channel := s.channel ++ [post], unanswered := s.unanswered ++ [⟨post.postId, (), reply⟩] }
  else s

def encodeMessageData (msg : MamaMsg) : PostPayload :=
  if msg.msgType.getD .update = .initial ∨ msg.msgType.getD .update = .refresh then
    .refresh (if msg.msgStatus.getD .possiblyStale = .ok then .ok else .suspect)
  else .update

def buildPostMessage (cfg : PosterConfig) (s : Posting) (o : BuildOutcome) (msg : MamaMsg)
    (reply : Option PublisherPostMessageReply) : Option RsslPostMsg × Posting :=
  let (postId, s) := s.addPost reply
  if o.hostByName < .success then (none, s)
  else if o.setIteratorBuffer < .success then (none, s)
  else if o.encodeMsgInit < .success then (none, s)
  else if o.encodeNonRWFInit ≠ .success then (none, s)
  else if ¬ o.encodeFields then (none, s)
  else if o.encodeNonRWFComplete ≠ .success then (none, s)
  else if o.encodeMsgComplete < .success then (none, s)
  else
    (some ⟨postId, !cfg.postOnStream, if cfg.useSeqNum then msg.seqNum else none, encodeMessageData msg⟩,
      { s with inFlightPosts := s.inFlightPosts ++ [postId] })

def setState (s : Posting) (msgStatus : MamaMsgStatus) : RsslDataState × Posting :=
  (if s.lastMsgStatus = msgStatus then .noChange else if msgStatus = .ok then .ok else .suspect,
    { s with lastMsgStatus := msgStatus })

def startEncoding (ret : RsslRet) : RsslRet := if ret < .success then ret else .success

def finishEncoding (ret : RsslRet) : RsslRet := if ret < .success then ret else .success

def setPostUserInfo (ret : RsslRet) : RsslRet := if ret < .success then ret else .success

def allocateEncoder (o : StatusOutcome) : Bool :=
  if ¬ o.getBuffer then false else if o.setIteratorBuffer < .success then false else true

def encodeStatusMessage (s : Posting) (o : StatusOutcome) (msgStatus : MamaMsgStatus) (msg : MamaMsg) :
    RsslRet × PostPayload × Posting :=
  let (dataState, s) := s.setState msgStatus
  (if startEncoding o.encodeStatusInit = .success then finishEncoding o.encodeStatusComplete
    else startEncoding o.encodeStatusInit,
    .status msgStatus dataState msg.seqNum, s)

def postStatusMessage (cfg : PosterConfig) (s : Posting) (o : StatusOutcome) (msgStatus : MamaMsgStatus)
    (msg : MamaMsg) : RsslRet × Posting :=
  let (postId, s) := s.addPost none
  let ret := setPostUserInfo o.hostByName
  if ret ≠ .success then (ret, s)
  -- `ret` is still a success here
  else if ¬ allocateEncoder o then (ret, s)
  else if startEncoding o.encodeMsgInit ≠ .success then (startEncoding o.encodeMsgInit, s)
  else
    let (ret, payload, s) := s.encodeStatusMessage o msgStatus msg
    if ret ≠ .success then (ret, s)
    else if finishEncoding o.encodeMsgComplete ≠ .success then (finishEncoding o.encodeMsgComplete, s)
    else (.success, s.sendUPAMessage o.written ⟨postId, !cfg.postOnStream, msg.seqNum, payload⟩ none)

def postData (cfg : PosterConfig) (s : Posting) (o : BuildOutcome) (msg : MamaMsg)
    (reply : Option PublisherPostMessageReply) : Bool × Posting :=
  if ¬ o.getBuffer then (false, s)
  else
    match s.buildPostMessage cfg o msg reply with
    | (none, s) => (false, s)
    | (some post, s) => (true, s.sendUPAMessage o.written post reply)

def doPostMessage (cfg : PosterConfig) (s : Posting) (b : BuildOutcome) (o : StatusOutcome) (msg : MamaMsg)
    (reply : Option PublisherPostMessageReply) : Bool × Posting :=
  let msgStatus := msg.msgStatus.getD .ok
  let statusChange := msgStatus ≠ s.lastMsgStatus
  if statusChange ∧ s.lastMsgStatus = .ok then
    let (ret, s) := s.postStatusMessage cfg o msgStatus msg
    if ret ≠ .success then (false, s) else s.postData cfg b msg reply
  else
    let (sent, s) := s.postData cfg b msg reply
    if ¬ sent then (false, s)
    else if statusChange ∧ s.lastMsgStatus ≠ .ok then
      let (ret, s) := s.postStatusMessage cfg o msgStatus msg
      if ret ≠ .success then (false, s) else (true, s)
    else (true, s)

end Posting

end RmdsBridge
