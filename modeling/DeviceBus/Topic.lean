import DeviceBus.BusError

/-!
# Topics

A topic is a head, naming the subsystem that a message belongs to, and a method, naming its purpose,
joined by a slash.  The receiving side splits a topic at its first slash, so neither part may hold one;
and as a topic ends at the first zero byte of a message, neither may hold that character.

Lengths are counted in bytes.  The checks of `fault?` are made in a fixed order, and the first one that
fails is the one reported.
-/

namespace DeviceBus.Topic

/-- The longest method, in bytes. -/
def methodLimit : Nat := 31

/-- The longest topic, in bytes. -/
def topicLimit : Nat := 127

/-- Join a head and a method. -/
def compose (head method : String) : String := head ++ "/" ++ method

/-- What stands before the first slash; the whole topic if there is none. -/
def head (topic : String) : String := String.ofList (topic.toList.takeWhile (· ≠ '/'))

/-- What stands after the first slash; nothing if there is none. -/
def method (topic : String) : String := String.ofList ((topic.toList.dropWhile (· ≠ '/')).drop 1)

/-- What is wrong with a pair of head and method. -/
inductive Fault where
  | emptyPart
  | holdsNul
  | holdsSlash
  | methodTooLong
  | topicTooLong
  deriving DecidableEq, Repr

/-- The fault of a pair in words. -/
def Fault.reason (head method : String) : Fault → String
  | .emptyPart => "empty head or method in '" ++ compose head method ++ "'"
  | .holdsNul => "topic contains NUL"
  | .holdsSlash => "'/' inside head or method of '" ++ compose head method ++ "'"
  | .methodTooLong => "method '" ++ method ++ "' longer than " ++ toString methodLimit ++ " bytes"
  | .topicTooLong =>
      "topic '" ++ compose head method ++ "' longer than " ++ toString topicLimit ++ " bytes"

/-- The first fault of a pair, if it has one. -/
def fault? (head method : String) : Option Fault :=
  if head = "" ∨ method = "" then some .emptyPart
  else if '\x00' ∈ head.toList ∨ '\x00' ∈ method.toList then some .holdsNul
  else if '/' ∈ head.toList ∨ '/' ∈ method.toList then some .holdsSlash
  else if methodLimit < method.utf8ByteSize then some .methodTooLong
  else if topicLimit < head.utf8ByteSize + 1 + method.utf8ByteSize then some .topicTooLong
  else none

/-- Check that a pair may be registered and published. -/
def validate (head method : String) : Except BusError Unit :=
  match fault? head method with
  | none => .ok ()
  | some fault => .error (.invalidTopic (fault.reason head method))

/-- A pair is accepted exactly when it has no fault. -/
theorem validate_eq_ok_iff (head method : String) :
    validate head method = .ok () ↔ fault? head method = none := by
  unfold validate
  cases fault? head method <;> simp

end DeviceBus.Topic
