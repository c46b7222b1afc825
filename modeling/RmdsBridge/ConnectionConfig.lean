import RmdsBridge.ParseItems
import RmdsBridge.PassStreams

namespace RmdsBridge

open TextTokens PassStreams

def parseToVector {α : Type} (s : List Char) (default : α) (parse : List Char → α → Option α) :
    Option (List α) :=
  (escapedListTokens s).map fun tokens => tokens.filterMap fun tok => parse (trim tok) default

/-- A valid configuration: it has hosts and a schedule. The iterators are the items they stand on with
those after them. -/
structure RMDSConnectionConfig where
  firstHost : Host
  otherHosts : List Host
  currHost : Host
  nextHosts : List Host
  currRetrysched : Retrysched
  nextRetryscheds : List Retrysched
  retries : UInt32

namespace RMDSConnectionConfig

def createHostVector (hosts : List Char) : Option (List Host) :=
  parseToVector hosts ⟨[], ['1', '4', '0', '0', '2']⟩ parseHostItem

def createRetryschedVector (retrysched : List Char) : Option (List Retrysched) :=
  parseToVector retrysched ⟨0, 1⟩ parseRetryschedItem

def defaultRetryschedValues : List Retrysched := [⟨0, 0⟩, ⟨3, 3⟩, ⟨10, 3⟩, ⟨30, 6⟩]

def start (host : Host) (hosts : List Host) (item : Retrysched) (items : List Retrysched) :
    RMDSConnectionConfig where
  firstHost := host
  otherHosts := hosts
  currHost := host
  nextHosts := hosts
  currRetrysched := item
  nextRetryscheds := items
  retries := item.retry

def create (hosts retrysched : List Char) : Option RMDSConnectionConfig := do
  let hosts ← createHostVector hosts
  let retryscheds ← createRetryschedVector retrysched
  match hosts, if retryscheds = [] then defaultRetryschedValues else retryscheds with
  | host :: hosts, item :: items => some (start host hosts item items)
  | _, _ => none

def next (c : RMDSConnectionConfig) : RMDSConnectionConfig :=
  if c.retries = 1 then
    match c.nextHosts, c.nextRetryscheds with
    | host :: hosts, _ =>
      { c with currHost := host, nextHosts := hosts, retries := c.currRetrysched.retry }
    | [], item :: items =>
      { c with
        currHost := c.firstHost
        nextHosts := c.otherHosts
        currRetrysched := item
        nextRetryscheds := items
        retries := item.retry }
    | [], [] =>
      { c with currHost := c.firstHost, nextHosts := c.otherHosts, retries := c.currRetrysched.retry }
  else { c with retries := c.retries - 1 }

def current (c : RMDSConnectionConfig) : Host × UInt32 := (c.currHost, c.currRetrysched.delay)

def reads (c : RMDSConnectionConfig) : Stream' (Host × UInt32) := Stream'.corec current next c

end RMDSConnectionConfig

end RmdsBridge
