import CleanRoom.ApiServerProxy.PolicyVerification
import Mathlib.Data.List.Infix

/-!
# The proxy between the kubelet and the API server

The pods that the admission controller denies are taken out of lists and of watch streams.
Handlers run concurrently and share the table of rejected pods, so the table that a handler
finds at each lookup is an input here. What a handler does to the table and the pods that it
rejects through their status are listed as effects.
-/

namespace CleanRoom.ApiServerProxy

open JsonText GoJson

abbrev RejectedPods := List (String × Decision)

inductive Effect where
  | track (podKey : String) (decision : Decision)
  | forget (podKey : String)
  /-- The status of the pod is patched to `Failed`. -/
  | rejectPodViaStatus (podNamespace name reason : String)

structure Proxy where
  admissionController : Controller

def getPodIdentifier (pod : Fields) : String × String :=
  match asObject (fieldOf pod "metadata") with
  | none => ("default", "unknown")
  | some metadata =>
      ((stringItem (fieldOf metadata "namespace")).getD "default",
        match stringItem (fieldOf metadata "name"),
          stringItem (fieldOf metadata "generateName") with
        | some name, _ => name
        | none, some generateName => generateName ++ "<generated>"
        | none, none => "unknown")

def getPodPhase (pod : Fields) : String :=
  match asObject (fieldOf pod "status") with
  | none => ""
  | some status => asText (fieldOf status "phase")

def isTerminalPhase (phase : String) : Bool := phase = "Succeeded" || phase = "Failed"

def podKey (pod : Fields) : String := (getPodIdentifier pod).1 ++ "/" ++ (getPodIdentifier pod).2

def admissionRequest (pod : Fields) : Request :=
  ⟨(getPodIdentifier pod).1, (getPodIdentifier pod).2, pod, []⟩

def evaluatePodAdmission (proxy : Proxy) (pod : Fields) : Decision :=
  proxy.admissionController.admitRequest (admissionRequest pod)

def rejectEffect (pod : Fields) (decision : Decision) : Effect :=
  .rejectPodViaStatus (getPodIdentifier pod).1 (getPodIdentifier pod).2 decision.reason

/-- The evaluation of a pod that is not in a terminal state: whether it is
passed on, and what is done otherwise. -/
def reviewPod (proxy : Proxy) (rejectedPods : RejectedPods) (pod : Fields) : Bool × List Effect :=
  if (rejectedPods.lookup (podKey pod)).isSome then (false, [])
  else
    let decision := evaluatePodAdmission proxy pod
    if decision.allowed = false then
      (false, [.track (podKey pod) decision, rejectEffect pod decision])
    else (true, [])

def filterPodItem (proxy : Proxy) (rejectedPods : RejectedPods) (item : Json) :
    Bool × List Effect :=
  match item with
  | .object pod =>
      if isTerminalPhase (getPodPhase pod) then (true, []) else reviewPod proxy rejectedPods pod
  | _ => (true, [])

def filterPodItems (proxy : Proxy) (tables : Nat → RejectedPods) :
    Nat → List Json → List Json × List Effect
  | _, [] => ([], [])
  | index, item :: items =>
      let (kept, effects) := filterPodItem proxy (tables index) item
      let (filtered, more) := filterPodItems proxy tables (index + 1) items
      (if kept then item :: filtered else filtered, effects ++ more)

def bringsPod (eventType : String) : Bool := eventType = "ADDED" || eventType = "MODIFIED"

def isPod (object : Fields) : Bool := asText (fieldOf object "kind") = "Pod"

def filterPodEvent (proxy : Proxy) (rejectedPods : RejectedPods) (eventType : String)
    (object : Fields) : Bool × List Effect :=
  if isPod object = false then (true, [])
  else if bringsPod eventType then
    if isTerminalPhase (getPodPhase object) then (true, [.forget (podKey object)])
    else reviewPod proxy rejectedPods object
  else if eventType = "DELETED" then (true, [.forget (podKey object)])
  else (true, [])

end CleanRoom.ApiServerProxy
