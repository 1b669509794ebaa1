import FleetRollout.Http.Redirect
import FleetRollout.Proofs.Http.Serving
import Mathlib.Data.List.Chain

/-! Where a request leads. One that reads leads to others that read; one that creates something is
sent again only when a response asks for the same, and at most as often as a client goes along. -/
namespace FleetRollout.Http
variable {locate : Locating} {hops : Nat} {r next : Request} {response : Response}
  {chain : List AnsweredRequest} {answer : Except HttpFault Response}

/-- The requests that a first one leads to, that one included, with what came of it at last. -/
inductive Followed (locate : Locating) :
    Nat → Request → List AnsweredRequest → Except HttpFault Response → Prop where
  | unsent {hops : Nat} {r : Request} (fault : HttpFault) : Followed locate hops r [] (.error fault)
  | failed {hops : Nat} {r : Request} (fault : HttpFault) :
      Followed locate hops r [(r, .error fault)] (.error fault)
  | stayed {hops : Nat} {r : Request} {response : Response}
      (stays : r.redirected? locate response = none) :
      Followed locate hops r [(r, .ok response)] (.ok response)
  | stopped {r next : Request} {response : Response}
      (moves : r.redirected? locate response = some next) :
      Followed locate 0 r [(r, .ok response)] (.error .redirectedTooOften)
  | moved {hops : Nat} {r next : Request} {response : Response} {chain : List AnsweredRequest}
      {answer : Except HttpFault Response} (moves : r.redirected? locate response = some next)
      (rest : Followed locate hops next chain answer) :
      Followed locate (hops + 1) r ((r, .ok response) :: chain) answer

/-- One hop is refused, or it is answered and either ends there or goes on. -/
theorem hop_ensures {goOn : Request → Program (Except HttpFault Response)} {r : Request}
    {P : List AnsweredRequest → Except HttpFault Response → Prop}
    (unsent : ∀ fault, P [] (.error fault)) (failed : ∀ fault, P [(r, .error fault)] (.error fault))
    (stayed : ∀ response, r.redirected? locate response = none → P [(r, .ok response)] (.ok response))
    (moved : ∀ response next, r.redirected? locate response = some next →
      (goOn next).Ensures fun es answer => P ((r, .ok response) :: traffic es) answer) :
    (hop locate goOn r).Ensures fun es answer => P (traffic es) answer := by
  unfold hop
  split
  · exact unsent _
  · split
    · exact unsent _
    · refine Dialogue.ensures_bind.mpr (ensures_exchange.mpr ?_)
      rintro (fault | response)
      · exact failed fault
      · dsimp only
        split
        · rename_i stays
          exact stayed response stays
        · rename_i next moves
          exact moved response next moves

theorem follow_ensures (locate : Locating) (hops : Nat) (r : Request) :
    (follow locate hops r).Ensures fun es answer => Followed locate hops r (traffic es) answer := by
  induction hops generalizing r with
  | zero => exact hop_ensures .unsent .failed (fun _ => .stayed) fun _ _ => .stopped
  | succ hops ih =>
    refine hop_ensures .unsent .failed (fun _ => .stayed) fun response next moves => ?_
    exact (ih next).imp fun _ _ => .moved moves

theorem Followed.length_le (followed : Followed locate hops r chain answer) :
    chain.length ≤ hops + 1 := by
  induction followed with
  | unsent | failed | stayed | stopped => simp
  | moved _ _ ih => simpa using ih

/-- Where a response leads, a request is repeated as it is, or something is read. -/
theorem redirected?_eq_some (moves : r.redirected? locate response = some next) :
    next.method = .get ∨ [307, 308].contains response.status = true ∧ next.method = r.method ∧
      next.body = r.body := by
  unfold Request.redirected? at moves
  obtain ⟨redirection, known, moves⟩ := Option.bind_eq_some_iff.mp moves
  obtain ⟨text, _, moves⟩ := Option.bind_eq_some_iff.mp moves
  obtain ⟨url, _, moves⟩ := Option.bind_eq_some_iff.mp moves
  cases redirection with
  | instead =>
    obtain rfl := Option.some.inj moves
    exact .inl rfl
  | again =>
    obtain rfl := Option.some.inj moves
    refine .inr ⟨?_, rfl, rfl⟩
    unfold Redirection.ofStatus? at known
    split at known
    · assumption
    · split at known <;> contradiction

/-- A request that reads leads to requests that read. -/
theorem Followed.gets (followed : Followed locate hops r chain answer) (get : r.method = .get) :
    ∀ sent ∈ chain, sent.1.method = .get := by
  induction followed with
  | unsent => simp
  | failed | stayed | stopped => simpa using get
  | moved moves _ ih =>
    have next : _ := (redirected?_eq_some moves).elim id fun same => same.2.1.trans get
    simpa [get] using ih next

def creating (sent : List AnsweredRequest) : List AnsweredRequest :=
  sent.filter fun answered => answered.1.method = .post

@[simp] theorem creating_append (first rest : List AnsweredRequest) :
    creating (first ++ rest) = creating first ++ creating rest :=
  List.filter_append first rest

theorem creating_eq_nil (gets : ∀ sent ∈ chain, sent.1.method = .get) : creating chain = [] := by
  apply List.filter_eq_nil_iff.mpr
  intro sent found
  simp [gets sent found]

/-- The second request is the first one once more, because the answer to that asks for the same
again elsewhere. -/
def Repeats (locate : Locating) (before after : AnsweredRequest) : Prop :=
  ∃ response, before.2 = .ok response ∧ [307, 308].contains response.status = true ∧
    before.1.redirected? locate response = some after.1 ∧ after.1.body = before.1.body

/-- Whatever a request leads to, only it itself creates something, first and perhaps again. -/
theorem Followed.creating_isChain (followed : Followed locate hops r chain answer) :
    (creating chain).IsChain (Repeats locate) ∧
      ∀ first ∈ (creating chain).head?, first.1 = r := by
  induction followed with
  | unsent => simp [creating]
  | @failed _ r _ | @stayed _ r _ _ | @stopped r _ _ _ =>
    cases method : r.method <;> simp [creating, method]
  | @moved hops r next response chain answer moves rest ih =>
    cases method : r.method with
    | get =>
      have none : creating ((r, .ok response) :: chain) = [] :=
        creating_eq_nil ((Followed.moved moves rest).gets method)
      simp [none]
    | post =>
      have sent : creating ((r, .ok response) :: chain) = (r, .ok response) :: creating chain := by
        simp [creating, method]
      obtain ⟨repeats, starts⟩ := ih
      rw [sent]
      refine ⟨List.isChain_cons.mpr ⟨fun first found => ?_, repeats⟩, by simp⟩
      obtain rfl := starts first found
      have post : first.1.method = .post := by
        have kept := List.mem_of_mem_head? found
        simpa [creating] using (List.mem_filter.mp kept).2
      obtain get | ⟨again, _, body⟩ := redirected?_eq_some moves
      · rw [get] at post
        contradiction
      · exact ⟨response, rfl, again, moves, body⟩

end FleetRollout.Http
