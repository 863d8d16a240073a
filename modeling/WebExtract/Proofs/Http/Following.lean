import WebExtract.Http.Client

/-!
# Clients that follow redirections

A client is any function of addresses (`Http.Client`). The clients here are those of networks that
answer each address always in the same way: `Client.following limit network` follows redirections,
at most `limit` of them for one request. `EndsIn network n url r` says that the request for `url`
ends in `r` after `n` redirections; in a cycle no request ends.

**Results.**
* `EndsIn.unique`: a request ends in one response at most, after one number of redirections.
* `follow_eq_ok_iff`: following and counting down gets the response that the request ends in, if
  that is not too far.
* `EndsIn.of_redirection_self`: an address that leads to itself ends nowhere, whatever the limit.
-/
namespace WebExtract.Http

/-- What a network answers to one request. -/
inductive Answer
  | response (r : Response)
  /-- The address is to be had at another one, given in full. -/
  | redirection (target : String)
  | failure (e : RequestError)

abbrev Network := String → Answer

/-- The response that a request leads to, with `left` more redirections to be followed. -/
def follow (network : Network) (left : Nat) (url : String) : Except RequestError Response :=
  match network url with
  | .response r => .ok r
  | .failure e => .error e
  | .redirection target =>
    match left with
    | 0 => .error ⟨"error following redirect for url (" ++ url ++ ")"⟩
    | left + 1 => follow network left target

def Client.following (limit : Nat) (network : Network) : Client := ⟨follow network limit⟩

inductive EndsIn (network : Network) : Nat → String → Response → Prop
  | response {url : String} {r : Response} : network url = .response r → EndsIn network 0 url r
  | redirection {n : Nat} {url target : String} {r : Response} :
    network url = .redirection target → EndsIn network n target r → EndsIn network (n + 1) url r

variable {network : Network} {n n' left : Nat} {url : String} {r r' : Response}

theorem EndsIn.unique (h : EndsIn network n url r) (h' : EndsIn network n' url r') :
    n = n' ∧ r = r' := by
  induction h generalizing n' with
  | response ha =>
    cases h' with
    | response ha' =>
      rw [ha] at ha'
      exact ⟨rfl, Answer.response.inj ha'⟩
    | redirection ha' _ =>
      rw [ha] at ha'
      cases ha'
  | redirection ha _ ih =>
    cases h' with
    | response ha' =>
      rw [ha] at ha'
      cases ha'
    | redirection ha' h' =>
      rw [ha] at ha'
      cases ha'
      obtain ⟨rfl, rfl⟩ := ih h'
      exact ⟨rfl, rfl⟩

theorem EndsIn.follow_eq (h : EndsIn network n url r) (hn : n ≤ left) :
    follow network left url = .ok r := by
  induction h generalizing left with
  | response ha => rw [follow, ha]
  | redirection ha _ ih =>
    cases left with
    | zero => cases hn
    | succ left =>
      rw [follow, ha]
      exact ih (Nat.le_of_succ_le_succ hn)

theorem endsIn_of_follow (h : follow network left url = .ok r) :
    ∃ n ≤ left, EndsIn network n url r := by
  fun_induction follow network left url with
  | case1 left url r' ha =>
    cases h
    exact ⟨0, Nat.zero_le _, .response ha⟩
  | case2 => cases h
  | case3 => cases h
  | case4 url target ha left ih =>
    obtain ⟨n, hn, hend⟩ := ih h
    exact ⟨n + 1, Nat.succ_le_succ hn, .redirection ha hend⟩

theorem follow_eq_ok_iff : follow network left url = .ok r ↔ ∃ n ≤ left, EndsIn network n url r :=
  ⟨endsIn_of_follow, fun ⟨_, hn, h⟩ => h.follow_eq hn⟩

theorem EndsIn.of_redirection_self (ha : network url = .redirection url) :
    ¬ EndsIn network n url r := by
  induction n with
  | zero =>
    intro h
    cases h with
    | response ha' =>
      rw [ha] at ha'
      cases ha'
  | succ n ih =>
    intro h
    cases h with
    | redirection ha' h =>
      rw [ha] at ha'
      cases ha'
      exact ih h

end WebExtract.Http
