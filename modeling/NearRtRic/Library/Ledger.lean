import Mathlib.Tactic
import NearRtRic.Library.Runs

/-! Accounts that are kept beside one total: when the total is their sum. -/

namespace NearRtRic.Ledger

open Runs

structure Books (Account Key : Type) where
  account : Account → Key → Nat
  total : Key → Nat

/-- What is added to one account, and what to the total. -/
structure Posting (Account Key : Type) where
  account : Account
  own : Key → Nat
  overall : Key → Nat

variable {Account Key : Type}

def empty : Books Account Key where
  account := fun _ _ => 0
  total := fun _ => 0

/-- The total is the sum of these accounts. -/
def Agree (accounts : Finset Account) (books : Books Account Key) : Prop :=
  ∀ key, books.total key = ∑ account ∈ accounts, books.account account key

variable [DecidableEq Account]

def post (books : Books Account Key) (posting : Posting Account Key) : Books Account Key where
  account := Function.update books.account posting.account fun key =>
    books.account posting.account key + posting.own key
  total := fun key => books.total key + posting.overall key

theorem post_nothing (books : Books Account Key) (account : Account) :
    post books { account := account, own := fun _ => 0, overall := fun _ => 0 } = books := by
  simp [post]

/-- Two postings to one account are one of what they add together. -/
theorem post_again (books : Books Account Key) (account : Account)
    (own overall ownLater overallLater : Key → Nat) :
    post (post books { account := account, own := own, overall := overall })
        { account := account, own := ownLater, overall := overallLater } =
      post books
        { account := account
          own := fun key => own key + ownLater key
          overall := fun key => overall key + overallLater key } := by
  simp [post, Nat.add_assoc]

theorem total_run (books : Books Account Key) (postings : List (Posting Account Key))
    (key : Key) :
    (run post books postings).total key =
      books.total key + (postings.map fun posting => posting.overall key).sum := by
  induction postings generalizing books with
  | nil => simp
  | cons posting postings ih =>
      rw [run_cons, ih, List.map_cons, List.sum_cons, ← Nat.add_assoc]
      rfl

theorem accounts_post (accounts : Finset Account) (books : Books Account Key)
    (posting : Posting Account Key) (within : posting.account ∈ accounts) (key : Key) :
    ∑ account ∈ accounts, (post books posting).account account key =
      ∑ account ∈ accounts, books.account account key + posting.own key := by
  have each : ∀ account, (post books posting).account account key =
      books.account account key + if account = posting.account then posting.own key else 0 := by
    intro account
    by_cases same : account = posting.account
    · subst same
      simp [post]
    · simp [post, same]
  calc
    ∑ account ∈ accounts, (post books posting).account account key =
        ∑ account ∈ accounts, (books.account account key +
          if account = posting.account then posting.own key else 0) :=
      Finset.sum_congr rfl fun account _ => each account
    _ = ∑ account ∈ accounts, books.account account key + posting.own key := by
      rw [Finset.sum_add_distrib, Finset.sum_ite_eq' accounts posting.account, if_pos within]

theorem accounts_run (accounts : Finset Account) (books : Books Account Key)
    (postings : List (Posting Account Key))
    (within : ∀ posting ∈ postings, posting.account ∈ accounts) (key : Key) :
    ∑ account ∈ accounts, (run post books postings).account account key =
      ∑ account ∈ accounts, books.account account key +
        (postings.map fun posting => posting.own key).sum := by
  induction postings generalizing books with
  | nil => simp
  | cons posting postings ih =>
      have ⟨here, later⟩ := List.forall_mem_cons.mp within
      calc
        ∑ account ∈ accounts, (run post books (posting :: postings)).account account key =
            ∑ account ∈ accounts, (post books posting).account account key +
              (postings.map fun posting => posting.own key).sum := ih (post books posting) later
        _ = ∑ account ∈ accounts, books.account account key +
              (posting.own key + (postings.map fun posting => posting.own key).sum) := by
          rw [accounts_post accounts books posting here, Nat.add_assoc]
        _ = _ := by rw [List.map_cons, List.sum_cons]

/-- From empty books: the total agrees just when as much was added on both sides. -/
theorem agree_run_iff (accounts : Finset Account) (postings : List (Posting Account Key))
    (within : ∀ posting ∈ postings, posting.account ∈ accounts) :
    Agree accounts (run post empty postings) ↔
      ∀ key, (postings.map fun posting => posting.overall key).sum =
        (postings.map fun posting => posting.own key).sum := by
  refine forall_congr' fun key => ?_
  rw [total_run, accounts_run accounts empty postings within]
  simp [empty]

/-- When no posting adds more to the total than to its account, one that adds less shows. -/
theorem not_agree_of_short (accounts : Finset Account) (postings : List (Posting Account Key))
    (within : ∀ posting ∈ postings, posting.account ∈ accounts) (key : Key)
    (atMost : ∀ posting ∈ postings, posting.overall key ≤ posting.own key)
    (short : ∃ posting ∈ postings, posting.overall key < posting.own key) :
    ¬ Agree accounts (run post empty postings) := by
  intro agree
  have same := (agree_run_iff accounts postings within).mp agree key
  have less := List.sum_lt_sum (fun posting : Posting Account Key => posting.overall key)
    (fun posting => posting.own key) atMost short
  omega

end NearRtRic.Ledger
