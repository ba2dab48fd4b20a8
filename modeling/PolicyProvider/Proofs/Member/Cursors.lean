import Mathlib.Data.Finset.Card
import PolicyProvider.Proofs.Member.Run
import PolicyProvider.Proofs.Member.Scan
/-!
# Cursors — a scan ends if there are finitely many cursors to follow

A scan follows no cursor twice.  So it ends if the pages of a key lead to cursors of a finite set only, whatever the
collection does besides: its answers may change from call to call (`Confined.scan_ends`).
-/
namespace PolicyProvider

open Program (Runs)

def MemberError.ofListing : MemberError → Bool
  | .remote _ | .conversion _ => true
  | _ => false

variable {K : MemberKind} {σ : Type} {server : CollectionServer K σ} {t : Topology} {key : String} {I : σ → Prop}
  {cursors : Finset String}

/-- That listings of a key keep to some states of a collection, and that their pages lead to some cursors only. -/
structure Confined (server : CollectionServer K σ) (t : Topology) (key : String) (I : σ → Prop)
    (cursors : Finset String) : Prop where
  kept : ∀ q st, q.key = key → I st → I (server.list t q st).2
  led : ∀ q st view next, q.key = key → I st → shown K t (server.list t q st).1 = .ok view → view.next? = some next →
    next ∈ cursors

/-- What a scan that came to its end can say: some page listed the member, none did, or why a listing failed. -/
structure Scouted (server : CollectionServer K σ) (I : σ → Prop) (s : Scan) (r : Except MemberError Bool) : Prop where
  present : r = .ok true → ∃ q st view, q.key = s.key ∧ I st ∧
    shown K s.topology (server.list s.topology q st).1 = .ok view ∧ view.lists s.key s.member = true
  failed : ∀ e, r = .error e → e.ofListing = true

theorem scouted_absent {s : Scan} : Scouted server I s (.ok false) := by
  constructor
  · rintro ⟨⟩
  · rintro _ ⟨⟩

theorem scouted_failed {s : Scan} {e : MemberError} (h : e.ofListing = true) : Scouted server I s (.error e) := by
  constructor
  · rintro ⟨⟩
  · rintro _ ⟨⟩
    exact h

theorem scouted_present {s : Scan} {q : MemberQuery} {st : σ} {view : PageView} (hkey : q.key = s.key) (hst : I st)
    (hshown : shown K s.topology (server.list s.topology q st).1 = .ok view)
    (hlists : view.lists s.key s.member = true) : Scouted server I s (.ok true) := by
  constructor
  · rintro -
    exact ⟨q, st, view, hkey, hst, hshown, hlists⟩
  · rintro _ ⟨⟩

theorem ofListing_of_shown {answer : Except RemoteError (K.Page t)} {e : MemberError}
    (h : shown K t answer = .error e) : e.ofListing = true := by
  cases answer with
  | error cause =>
    cases h
    rfl
  | ok page =>
    change (K.view t page).mapError .conversion = .error e at h
    cases hview : K.view t page with
    | error cause =>
      rw [hview] at h
      cases h
      rfl
    | ok view =>
      rw [hview] at h
      cases h

theorem length_le_card {followed : List String} (hnodup : followed.Nodup) (hsub : ∀ x ∈ followed, x ∈ cursors) :
    followed.length ≤ cursors.card := by
  rw [← List.toFinset_card_of_nodup hnodup]
  exact Finset.card_le_card fun x hx => hsub x (List.mem_toFinset.1 hx)

/-- **A scan ends** after at most one listing for every cursor it has not followed yet, and the first one. -/
theorem Confined.scan_ends (h : Confined server t key I cursors) {s : Scan} (ht : s.topology = t) (hkey : s.key = key)
    (hnodup : s.followed.Nodup) (hsub : ∀ x ∈ s.followed, x ∈ cursors) {st : σ} (hst : I st) :
    ∃ log r st', Runs server (.scan s .done) st log r st' ∧ log.length + s.followed.length ≤ cursors.card + 1 ∧ I st' ∧
      Scouted server I s r := by
  subst ht hkey
  -- on the number of cursors that are left to follow
  induction hleft : cursors.card - s.followed.length using Nat.strongRecOn generalizing s st with
  | ind left ih =>
    have hle := length_le_card hnodup hsub
    have hone : 1 + s.followed.length ≤ cursors.card + 1 := by omega
    have hkept := h.kept s.query st rfl hst
    have hled := h.led s.query st
    have hans := s.answered_eq K (server.list s.topology s.query st).1
    generalize hshown : shown K s.topology (server.list s.topology s.query st).1 = sight at hans hled
    cases sight with
    | error e =>
      by_cases he : e.saysMissing = true
      · rw [Scan.judged, if_pos he] at hans
        exact ⟨_, _, _, .settled hans, hone, hkept, scouted_absent⟩
      · rw [Scan.judged, if_neg he] at hans
        exact ⟨_, _, _, .failed hans, hone, hkept, scouted_failed (ofListing_of_shown hshown)⟩
    | ok view =>
      have hread := s.reading view
      rw [Scan.judged] at hans
      generalize s.read view = verdict at hread hans
      cases hread with
      | empty hcount => exact ⟨_, _, _, .settled hans, hone, hkept, scouted_absent⟩
      | last hcount hlists hlast => exact ⟨_, _, _, .settled hans, hone, hkept, scouted_absent⟩
      | present hcount hlists => exact ⟨_, _, _, .settled hans, hone, hkept, scouted_present rfl hst hshown hlists⟩
      | @further next hcount hlists hnext hnew =>
        have hmem : next ∈ cursors := hled view next rfl hst rfl hnext
        have hnodup' : (next :: s.followed).Nodup := List.nodup_cons.2 ⟨hnew, hnodup⟩
        have hsub' : ∀ x ∈ next :: s.followed, x ∈ cursors := by
          intro x hx
          rcases List.mem_cons.1 hx with rfl | hx
          · exact hmem
          · exact hsub x hx
        have hle' := length_le_card hnodup' hsub'
        rw [List.length_cons] at hle'
        have hless : cursors.card - (s.followed.length + 1) < left := by omega
        obtain ⟨log, r, st', hrun, hlen, hst', hscouted⟩ := ih _ hless
          (s := { s with cursor := some next, followed := next :: s.followed }) hnodup' hsub' hkept h rfl
        refine ⟨_, r, st', .further hans hrun, ?_, hst', hscouted.present, hscouted.failed⟩
        simp only [List.length_cons] at hlen ⊢
        omega

end PolicyProvider
