import Mathlib.Data.List.Perm.Basic
import SessionKeeper.Proofs.Text.Casing
import SessionKeeper.Workspace.Condition

/-!
# Workspaces by condition

A partition holds every workspace of a list once, in the bucket that its status means and in the order of the list.
What surrounds a status and how its letters are written changes no bucket.

* `Partition.bucket`, `Partition.bucket_ofList` : the workspaces of one condition.
* `Partition.entries`, `Partition.entries_ofList` : all workspaces, of which none is lost or repeated.
* `Partition.flags_apart`, `Partition.stopped_eq_nil_iff` : what the three questions about a partition say together.
* `Partition.Alike`, `Partition.alike_ofList` : partitions with corresponding workspaces at the same places.
* `Partition.ofList_faithful` : all of this for the partition of a list.
-/

namespace SessionKeeper

open Text

theorem Condition.ofStatus_congr {s t : String} (h : SameWord s t) : ofStatus s = ofStatus t := by
  unfold ofStatus
  rw [h.lower_strip_eq]

namespace Partition

variable {α β : Type}

/-! ## Buckets -/

theorem foldl_push (status : α → String) (xs : List α) (p : Partition α) :
    xs.foldl (fun p a => p.push (Condition.ofStatus (status a)) a) p =
      ⟨p.running ++ xs.filter fun a => Condition.ofStatus (status a) = .running,
       p.stopped ++ xs.filter fun a => Condition.ofStatus (status a) = .stopped,
       p.unknown ++ xs.filter fun a => Condition.ofStatus (status a) = .unknown⟩ := by
  induction xs generalizing p with
  | nil => simp
  | cons a xs ih =>
    rw [List.foldl_cons, ih]
    cases hcondition : Condition.ofStatus (status a) with
    | running => simp [push, hcondition]
    | stopped => simp [push, hcondition]
    | unknown => simp [push, hcondition]

def bucket (p : Partition α) : Condition → List α
  | .running => p.running
  | .stopped => p.stopped
  | .unknown => p.unknown

theorem bucket_ofList (status : α → String) (xs : List α) (c : Condition) :
    (ofList status xs).bucket c = xs.filter fun a => Condition.ofStatus (status a) = c := by
  rw [ofList, foldl_push]
  cases c <;> rfl

/-! ## All workspaces -/

def entries (p : Partition α) : List α := p.running ++ p.stopped ++ p.unknown

theorem entries_push (p : Partition α) (c : Condition) (a : α) : (p.push c a).entries.Perm (p.entries ++ [a]) := by
  have hend {front back : List α} : (front ++ [a] ++ back).Perm (front ++ back ++ [a]) := by
    rw [List.append_assoc, List.append_assoc]
    exact List.perm_append_comm.append_left front
  unfold entries push
  cases c with
  | running =>
    dsimp only
    rw [List.append_assoc, List.append_assoc p.running p.stopped]
    exact hend
  | stopped =>
    dsimp only
    rw [← List.append_assoc]
    exact hend
  | unknown =>
    dsimp only
    rw [← List.append_assoc]

theorem entries_foldl (status : α → String) (xs : List α) (p : Partition α) :
    (xs.foldl (fun p a => p.push (Condition.ofStatus (status a)) a) p).entries.Perm (p.entries ++ xs) := by
  induction xs generalizing p with
  | nil => rw [List.foldl_nil, List.append_nil]
  | cons a xs ih =>
    rw [List.foldl_cons, ← List.singleton_append, ← List.append_assoc]
    refine (ih _).trans ?_
    exact (p.entries_push _ a).append_right xs

theorem entries_ofList (status : α → String) (xs : List α) : (ofList status xs).entries.Perm xs :=
  entries_foldl status xs nil

theorem length_ofList (status : α → String) (xs : List α) :
    (ofList status xs).running.length + (ofList status xs).stopped.length + (ofList status xs).unknown.length =
      xs.length := by
  rw [← (entries_ofList status xs).length_eq, entries, List.length_append, List.length_append]

/-! ## Questions about a partition -/

theorem flags_apart (p : Partition α) :
    [p.isEmpty, p.allStopped, p.isMixed].Pairwise fun a b => ¬ (a = true ∧ b = true) := by
  unfold isEmpty allStopped isMixed
  cases p.running.isEmpty <;> cases p.stopped.isEmpty <;> cases p.unknown.isEmpty <;> decide

theorem stopped_eq_nil_iff (p : Partition α) : p.stopped = [] ↔ p.allStopped = false ∧ p.isMixed = false := by
  unfold allStopped isMixed
  rw [← List.isEmpty_iff]
  cases p.running.isEmpty <;> cases p.stopped.isEmpty <;> decide

theorem isEmpty_eq (p : Partition α) : p.isEmpty = p.entries.isEmpty := by
  rw [Bool.eq_iff_iff]
  simp [isEmpty, entries, and_assoc]

theorem isEmpty_ofList (status : α → String) (xs : List α) : (ofList status xs).isEmpty = true ↔ xs = [] := by
  rw [isEmpty_eq, (entries_ofList status xs).isEmpty_eq, List.isEmpty_iff]

/-! ## Corresponding workspaces -/

/-- The partitions have corresponding workspaces at the same places of the same conditions, and the questions about
them are answered alike. -/
structure Alike (R : α → β → Prop) (p : Partition α) (q : Partition β) : Prop where
  bucket : ∀ c, List.Forall₂ R (p.bucket c) (q.bucket c)
  isEmpty : p.isEmpty = q.isEmpty
  allStopped : p.allStopped = q.allStopped
  isMixed : p.isMixed = q.isMixed

theorem Alike.of_buckets {R : α → β → Prop} {p : Partition α} {q : Partition β}
    (h : ∀ c, List.Forall₂ R (p.bucket c) (q.bucket c)) : Alike R p q := by
  have hsame {as : List α} {bs : List β} (hall : List.Forall₂ R as bs) : as.isEmpty = bs.isEmpty := by
    cases hall <;> rfl
  have hrunning : p.running.isEmpty = q.running.isEmpty := hsame (h .running)
  have hstopped : p.stopped.isEmpty = q.stopped.isEmpty := hsame (h .stopped)
  have hunknown : p.unknown.isEmpty = q.unknown.isEmpty := hsame (h .unknown)
  refine ⟨h, ?_, ?_, ?_⟩
  · rw [Partition.isEmpty, Partition.isEmpty, hrunning, hstopped, hunknown]
  · rw [Partition.allStopped, Partition.allStopped, hrunning, hstopped]
  · rw [Partition.isMixed, Partition.isMixed, hrunning, hstopped]

/-- Lists whose workspaces correspond have partitions whose workspaces do, if corresponding ones have the same word for
a status. -/
theorem alike_ofList {status : α → String} {status' : β → String} {R : α → β → Prop}
    (hR : ∀ a b, R a b → SameWord (status a) (status' b)) {xs : List α} {ys : List β} (h : List.Forall₂ R xs ys) :
    Alike R (ofList status xs) (ofList status' ys) := by
  refine .of_buckets fun c => ?_
  rw [bucket_ofList, bucket_ofList]
  refine List.rel_filter (fun a b hab => ?_) h
  dsimp only
  rw [Condition.ofStatus_congr (hR a b hab)]

/-! ## The partition of a list -/

/-- What the partition of a list keeps of it: its workspaces by condition, in their order, each as often as it occurs;
of the three questions at most one is answered with yes, and none only if no workspace is stopped. -/
structure Keeps (status : α → String) (xs : List α) (p : Partition α) : Prop where
  bucket : ∀ c, p.bucket c = xs.filter fun a => Condition.ofStatus (status a) = c
  entries : p.entries.Perm xs
  length : p.running.length + p.stopped.length + p.unknown.length = xs.length
  isEmpty : p.isEmpty = true ↔ xs = []
  apart : [p.isEmpty, p.allStopped, p.isMixed].Pairwise fun a b => ¬ (a = true ∧ b = true)
  none : p.isEmpty = false → p.allStopped = false → p.isMixed = false →
    ∀ a ∈ xs, Condition.ofStatus (status a) ≠ .stopped

/-- **A partition neither loses, repeats nor reorders workspaces.** It keeps them by condition; and where statuses are
replaced by others that differ only in the white space around them or in the case of ASCII letters, every workspace
stays at its place in its bucket. -/
theorem ofList_faithful (status : α → String) (xs : List α) :
    Keeps status xs (ofList status xs) ∧
    ∀ (status' : β → String) (R : α → β → Prop), (∀ a b, R a b → SameWord (status a) (status' b)) →
      ∀ ys, List.Forall₂ R xs ys → Alike R (ofList status xs) (ofList status' ys) := by
  refine ⟨⟨bucket_ofList status xs, entries_ofList status xs, length_ofList status xs, isEmpty_ofList status xs,
    flags_apart _, ?none⟩, fun status' R hR ys h => alike_ofList hR h⟩
  case none =>
    intro _ hall hmixed a ha hstopped
    have hnone : (ofList status xs).bucket .stopped = [] := (stopped_eq_nil_iff _).mpr ⟨hall, hmixed⟩
    rw [bucket_ofList, List.filter_eq_nil_iff] at hnone
    exact hnone a ha (decide_eq_true hstopped)

/-- Capitals, a tab and the wide space around a word change nothing, and one status occurs twice. -/
theorem ofList_faithful_respelled :
    (∀ a b, SameWord a b → SameWord (id a) (id b)) ∧
      List.Forall₂ SameWord ["Pending", "starting", "Pending"] ["\tPENDING", "Starting", "pendinG\u3000"] ∧
      Keeps id ["Pending", "starting", "Pending"] (ofList id ["Pending", "starting", "Pending"]) ∧
      Alike SameWord (ofList id ["Pending", "starting", "Pending"])
        (ofList id ["\tPENDING", "Starting", "pendinG\u3000"]) := by
  have hR : ∀ a b, SameWord a b → SameWord (id a) (id b) := fun _ _ h => h
  have hfront : SameWord "Pending" "\tPENDING" :=
    ⟨_, "PENDING".toList, surrounds_self _, ⟨['\t'], [], by decide, List.forall_mem_singleton.mpr rfl, nofun⟩,
      by decide⟩
  have hplain : SameWord "starting" "Starting" :=
    ⟨_, _, surrounds_self _, surrounds_self _, by decide⟩
  have hback : SameWord "Pending" "pendinG\u3000" :=
    ⟨_, "pendinG".toList, surrounds_self _, ⟨[], ['\u3000'], by decide, nofun, List.forall_mem_singleton.mpr rfl⟩,
      by decide⟩
  have hall : List.Forall₂ SameWord ["Pending", "starting", "Pending"] ["\tPENDING", "Starting", "pendinG\u3000"] :=
    .cons hfront (.cons hplain (.cons hback .nil))
  obtain ⟨hkeeps, halike⟩ := ofList_faithful id ["Pending", "starting", "Pending"]
  exact ⟨hR, hall, hkeeps, halike id SameWord hR _ hall⟩

end Partition

end SessionKeeper
