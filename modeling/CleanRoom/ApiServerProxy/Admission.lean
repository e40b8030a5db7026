import CleanRoom.Library.GoJson

/-!
# Admission controllers

A controller decides on a pod before the kubelet of the node gets to see it.
-/

namespace CleanRoom.ApiServerProxy

open JsonText GoJson

abbrev Fields := List (String × Json)

structure Request where
  podNamespace : String
  name : String
  pod : Fields
  rawPod : List Char

structure Decision where
  allowed : Bool
  reason : String
  mutatedPod : Option Fields
  warnings : List String

def allow (reason : String) : Decision := ⟨true, reason, none, []⟩

def deny (reason : String) : Decision := ⟨false, reason, none, []⟩

structure Controller where
  name : String
  admitRequest : Request → Decision

end CleanRoom.ApiServerProxy
