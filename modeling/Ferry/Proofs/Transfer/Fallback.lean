import Ferry.Proofs.Session.EventDeeds
import Ferry.Proofs.Transfer.Failure
import Mathlib.Data.List.Chain

/-!
# From one server to the next

With a list of servers to fall back on, the outputs of a session trace where its player is heading:
to a server that somebody has asked for, or from a server that is lost to the first one of the list
that is another. Nobody remembers which servers were lost before. So a player goes back and forth
between two servers at most, for as long as both fail, and the others on the list are never tried.
-/

namespace Ferry

/-- The servers that are called for. -/
def calledFor (outputs : List Output) : List Server :=
  outputs.filterMap fun
    | .dialed _ server => some server
    | _ => none

/-- The servers that are tried in place of lost ones. -/
def tried (outputs : List Output) : List Server := (sought outputs).filterMap Prod.snd

/-- Whether a session's player falls back on the servers of a list. -/
def Session.FallsBackOn (session : Session) (servers : List Server) : Prop :=
  session.services.fallback = fun lost _ _ => Server.fallback? servers lost

/-- Where the player of a session is heading, if anywhere. -/
def Session.aim (session : Session) : Option Server :=
  match session.stage with
  | .joining server => some server
  | .playing => session.heading
  | .over => none

/-- Whether an output says nothing about where the player is heading. -/
def Output.isAside : Output → Bool
  | .dialed _ _ | .soughtFallback _ _ => false
  | _ => true

/-- The outputs on a player's way, from where it is heading to where it is heading in the end, if
anywhere. Whether it may be asked for elsewhere is a parameter. -/
inductive Trail (servers : List Server) (asked : Prop) :
    Option Server → List Output → Option Server → Prop
  | stays (aim : Option Server) : Trail servers asked aim [] aim
  | aside {aim last : Option Server} {output : Output} {outputs : List Output}
      (quiet : output.isAside = true) (rest : Trail servers asked aim outputs last) :
      Trail servers asked aim (output :: outputs) last
  /-- Somebody has asked for the server that is called. -/
  | called {aim : Server} {last : Option Server} {attempt : Nat} {server : Server}
      {outputs : List Output} (asks : asked)
      (rest : Trail servers asked (some server) outputs last) :
      Trail servers asked (some aim) (.dialed attempt server :: outputs) last
  /-- The server that the player was heading to is lost, and another takes its place. -/
  | fell {lost server : Server} {last : Option Server} {attempt : Nat} {outputs : List Output}
      (found : Server.fallback? servers lost = some server)
      (rest : Trail servers asked (some server) outputs last) :
      Trail servers asked (some lost)
        (.soughtFallback lost (some server) :: .dialed attempt server :: outputs) last
  /-- There is no server left to go to. -/
  | stranded {lost : Server} {last : Option Server} {outputs : List Output}
      (nowhere : Server.fallback? servers lost = none)
      (rest : Trail servers asked none outputs last) :
      Trail servers asked (some lost) (.soughtFallback lost none :: outputs) last
  /-- The session is closed down. -/
  | ends {aim last : Option Server} {outputs : List Output}
      (rest : Trail servers asked none outputs last) : Trail servers asked aim outputs last

/-- Outputs that only carry packets say nothing about it. -/
theorem isAside_of_traffic {outputs : List Output} (traffic : OnlyTraffic outputs) :
    ∀ output ∈ outputs, output.isAside = true := by
  intro output mem
  have carries := traffic output mem
  cases output with
  | dialed => cases carries
  | soughtFallback => cases carries
  | _ => rfl

/-! ## The list of servers -/

namespace Server

variable {servers : List Server} {lost server : Server}

/-- Servers are the same if they have the same name and address. -/
theorem same_iff {left right : Server} :
    left.same right = true ↔ left.name = right.name ∧ left.address = right.address := by
  simp [same]

/-- What is fallen back on depends on nothing but which server was lost. -/
theorem fallback_congr {one other : Server} (same : one.same other = true) :
    fallback? servers one = fallback? servers other := by
  obtain ⟨name, address⟩ := same_iff.mp same
  simp only [fallback?, Server.same, name, address]

/-- A server that is fallen back on is another one. -/
theorem other_of_fallback (found : fallback? servers lost = some server) :
    server.same lost = false := by
  simpa using List.find?_some found

/-- It does not matter which of two servers is compared with the other. -/
theorem same_comm {left right : Server} : left.same right = right.same left := by
  rw [Bool.eq_iff_iff, same_iff, same_iff, eq_comm, @eq_comm _ left.address]

/-- The first server of a list comes before all others. -/
theorem fallback_first {first : Server} (head : servers.head? = some first)
    (other : first.same lost = false) : fallback? servers lost = some first := by
  obtain ⟨others, rfl⟩ := List.head?_eq_some_iff.mp head
  exact List.find?_cons_of_pos (by simp [other])

/-- Only the first server of a list is ever fallen back on, or the one that takes its place. -/
theorem fallback_cases (found : fallback? servers lost = some server) :
    ∃ first, servers.head? = some first ∧
      (server = first ∨ fallback? servers first = some server) := by
  obtain ⟨first, head⟩ : ∃ first, servers.head? = some first := by
    cases servers with
    | nil => cases found
    | cons first others => exact ⟨first, rfl⟩
  refine ⟨first, head, ?_⟩
  cases same : first.same lost with
  | true => exact .inr ((fallback_congr same).trans found)
  | false => exact .inl (Option.some.inj ((fallback_first head same).symm.trans found)).symm

/-- Servers that are not the same differ. -/
theorem differs_of_ne {left right : Server} (apart : left.same right = false) : left ≠ right := by
  rintro rfl
  simp [same] at apart

/-- Of two servers that are fallen back on and differ, one is the first of the list. -/
theorem first_of_two {first one other lost lost' : Server} (head : servers.head? = some first)
    (found : fallback? servers lost = some one) (found' : fallback? servers lost' = some other)
    (apart : one ≠ other) : one = first ∨ other = first := by
  obtain ⟨_, there, rfl | next⟩ := fallback_cases found
  · exact .inl (Option.some.inj (there.symm.trans head))
  · obtain rfl := Option.some.inj (there.symm.trans head)
    obtain ⟨_, there', rfl | next'⟩ := fallback_cases found'
    · exact .inr (Option.some.inj (there'.symm.trans head))
    · obtain rfl := Option.some.inj (there'.symm.trans head)
      exact absurd (Option.some.inj (next.symm.trans next')) apart

end Server

/-! ## Trails -/

namespace Trail

variable {servers : List Server} {asked : Prop} {aim middle last : Option Server}
  {outputs more : List Output}

/-- A way that goes on is a way. -/
theorem append (first : Trail servers asked aim outputs middle)
    (second : Trail servers asked middle more last) :
    Trail servers asked aim (outputs ++ more) last := by
  induction first with
  | stays => exact second
  | aside quiet _ ih => exact .aside quiet (ih second)
  | called asks _ ih => exact .called asks (ih second)
  | fell found _ ih => exact .fell found (ih second)
  | stranded nowhere _ ih => exact .stranded nowhere (ih second)
  | ends _ ih => exact .ends (ih second)

/-- Whatever more may be asked for, a way stays one. -/
theorem mono {others : Prop} (trail : Trail servers asked aim outputs last)
    (weaker : asked → others) : Trail servers others aim outputs last := by
  induction trail with
  | stays aim => exact .stays aim
  | aside quiet _ ih => exact .aside quiet ih
  | called asks _ ih => exact .called (weaker asks) ih
  | fell found _ ih => exact .fell found ih
  | stranded nowhere _ ih => exact .stranded nowhere ih
  | ends _ ih => exact .ends ih

/-- Who stays where it is heading needs no outputs. -/
theorem of_eq (same : last = aim) : Trail servers asked aim [] last := same ▸ .stays last

/-- Outputs that say nothing about it leave the player heading where it was. -/
theorem asides (quiet : ∀ output ∈ outputs, output.isAside = true) :
    Trail servers asked aim outputs aim := by
  induction outputs with
  | nil => exact .stays aim
  | cons output outputs ih =>
    obtain ⟨first, others⟩ := List.forall_mem_cons.mp quiet
    exact .aside first (ih others)

/-- A player who is heading nowhere stays there. -/
theorem of_none (trail : Trail servers asked aim outputs last) (nowhere : aim = none) :
    last = none ∧ calledFor outputs = [] ∧ sought outputs = [] := by
  induction trail with
  | stays => exact ⟨nowhere, rfl, rfl⟩
  | @aside _ _ output _ quiet _ ih =>
    obtain ⟨ended, uncalled, unsought⟩ := ih nowhere
    cases output with
    | dialed => cases quiet
    | soughtFallback => cases quiet
    | _ => exact ⟨ended, uncalled, unsought⟩
  | called => cases nowhere
  | fell => cases nowhere
  | stranded => cases nowhere
  | ends _ ih => exact ih rfl

/-- What was looked for on the way: another server in place of the one that the player was heading
to, which then is called for at once, if there is one. -/
theorem consults (trail : Trail servers asked aim outputs last) {before after : List Output}
    {lost : Server} {found : Option Server}
    (parts : outputs = before ++ .soughtFallback lost found :: after) :
    (aim.toList ++ calledFor before).getLast? = some lost ∧
      found = Server.fallback? servers lost ∧
      (∀ server, found = some server → ∃ attempt rest, after = .dialed attempt server :: rest) ∧
      (found = none → calledFor after = [] ∧ last = none) := by
  -- What was looked for stands at the head of the trail, or further on: then the trail from there
  -- has it, with one output less before it.
  induction trail generalizing before with
  | stays => simp at parts
  | @aside _ _ output _ quiet _ ih =>
    rcases List.cons_eq_append_iff.mp parts with ⟨rfl, same⟩ | ⟨before, rfl, others⟩
    · cases same
      cases quiet
    · have silent : calledFor (output :: before) = calledFor before := by
        cases output with
        | dialed => cases quiet
        | _ => rfl
      rw [silent]
      exact ih others
  | called _ _ ih =>
    rcases List.cons_eq_append_iff.mp parts with ⟨rfl, same⟩ | ⟨before, rfl, others⟩
    · cases same
    · obtain ⟨heading, rest⟩ := ih others
      exact ⟨by simpa [calledFor] using heading, rest⟩
  | @fell _ server _ attempt outputs found _ ih =>
    rcases List.cons_eq_append_iff.mp parts with ⟨rfl, same⟩ | ⟨before, rfl, others⟩
    · cases same
      refine ⟨rfl, found.symm, ?_, fun gone => by cases gone⟩
      rintro _ ⟨⟩
      exact ⟨attempt, outputs, rfl⟩
    · rcases List.cons_eq_append_iff.mp others with ⟨rfl, same⟩ | ⟨before, rfl, later⟩
      · cases same
      · obtain ⟨heading, rest⟩ := ih later
        exact ⟨by simpa [calledFor] using heading, rest⟩
  | stranded nowhere rest ih =>
    rcases List.cons_eq_append_iff.mp parts with ⟨rfl, same⟩ | ⟨before, rfl, others⟩
    · cases same
      obtain ⟨ended, uncalled, -⟩ := rest.of_none rfl
      exact ⟨rfl, nowhere.symm, fun _ finds => (by cases finds), fun _ => ⟨uncalled, ended⟩⟩
    · obtain ⟨heading, rest⟩ := ih others
      have heading : (calledFor before).getLast? = _ := heading
      refine ⟨?_, rest⟩
      change (_ :: calledFor before).getLast? = _
      rw [List.getLast?_cons, heading]
      rfl
  | @ends aim _ outputs _ ih =>
    obtain ⟨heading, rest⟩ := ih parts
    have heading : (calledFor before).getLast? = _ := heading
    refine ⟨?_, rest⟩
    rw [List.getLast?_append, heading]
    rfl

/-- If nobody asks for another server, each one that is tried takes the place of the one before. -/
theorem chain (trail : Trail servers asked aim outputs last) (unasked : ¬asked) :
    (aim.toList ++ tried outputs).IsChain fun lost server =>
      Server.fallback? servers lost = some server := by
  -- Where the trail ends, nothing but the server that the player was heading to is left.
  have alone {aim : Option Server} : aim.toList.IsChain fun lost server =>
      Server.fallback? servers lost = some server := by
    cases aim with
    | none => exact .nil
    | some server => exact .singleton server
  induction trail with
  | stays aim => simpa [tried, sought] using alone
  | @aside _ _ output outputs quiet _ ih =>
    have same : tried (output :: outputs) = tried outputs := by
      cases output with
      | soughtFallback => cases quiet
      | _ => rfl
    rw [same]
    exact ih
  | called asks => exact absurd asks unasked
  | fell found _ ih => exact .cons_cons found ih
  | @stranded lost _ outputs _ rest =>
    have untried : tried (.soughtFallback lost none :: outputs) = [] := by
      change (sought outputs).filterMap Prod.snd = []
      rw [(rest.of_none rfl).2.2]
      rfl
    rw [untried, List.append_nil]
    exact alone
  | ends rest =>
    rw [tried, (rest.of_none rfl).2.2, List.filterMap_nil, List.append_nil]
    exact alone

/-- Each server that is tried on the way takes the place of a lost one. -/
theorem tried_found (trail : Trail servers asked aim outputs last) :
    ∀ server ∈ tried outputs, ∃ lost, Server.fallback? servers lost = some server := by
  intro server mem
  obtain ⟨⟨lost, _⟩, mem, ⟨⟩⟩ := List.mem_filterMap.mp mem
  obtain ⟨output, mem, said⟩ := List.mem_filterMap.mp mem
  cases output with
  | soughtFallback =>
    cases said
    obtain ⟨before, after, parts⟩ := List.append_of_mem mem
    exact ⟨lost, (trail.consults parts).2.1.symm⟩
  | _ => cases said

/-- Of the servers that are tried on the way no more than two differ. -/
theorem length_le_of_distinct (trail : Trail servers asked aim outputs last)
    (distinct : (tried outputs).Pairwise fun one other => one.same other = false) :
    (tried outputs).length ≤ 2 := by
  have found := trail.tried_found
  generalize tried outputs = tries at found distinct
  match tries with
  | [] | [_] | [_, _] => simp
  | one :: two :: three :: others =>
    obtain ⟨apart, distinct⟩ := List.pairwise_cons.mp distinct
    obtain ⟨apart', -⟩ := List.pairwise_cons.mp distinct
    obtain ⟨lost, here⟩ := found one (by simp)
    obtain ⟨lost', there⟩ := found two (by simp)
    obtain ⟨lost'', beyond⟩ := found three (by simp)
    have near := Server.differs_of_ne (apart two (by simp))
    have far := Server.differs_of_ne (apart three (by simp))
    have next := Server.differs_of_ne (apart' three (by simp))
    obtain ⟨first, head, -⟩ := Server.fallback_cases here
    -- At most one of the three is the first of the list, and the other two are the same then.
    rcases Server.first_of_two head here there near with rfl | rfl
    · rcases Server.first_of_two head there beyond next with rfl | rfl
      · exact absurd rfl near
      · exact absurd rfl far
    · rcases Server.first_of_two head here beyond far with rfl | rfl
      · exact absurd rfl near
      · exact absurd rfl next

/-- Nobody being asked for elsewhere, two servers that are tried one after the other differ. -/
theorem distinct_of_length_le (trail : Trail servers asked aim outputs last) (unasked : ¬asked)
    (short : (tried outputs).length ≤ 2) :
    (tried outputs).Pairwise fun one other => one.same other = false := by
  have chain := (trail.chain unasked).right_of_append
  generalize tried outputs = tries at chain short
  match tries with
  | [] => exact .nil
  | [server] => exact List.pairwise_singleton _ server
  | [first, second] =>
    rw [List.isChain_pair] at chain
    have other := Server.other_of_fallback chain
    rw [Server.same_comm] at other
    exact List.pairwise_pair.mpr other
  | _ :: _ :: _ :: _ => simp at short

end Trail

/-! ## Where a player is heading -/

namespace Session

variable {session : Session}

/-- A player who is moving is heading for where it moves to. -/
theorem heading_of_moving {transfer : Transfer}
    (moving : session.player.transfer = some transfer) :
    session.heading = some transfer.target := by
  simp [heading, Work.destination, moving]

/-- A player whose new backend is logging it in is heading for that. -/
theorem heading_of_met {pending : PendingBackend} (met : session.pending = some pending)
    (free : session.player.transfer = none) : session.heading = some pending.arrival.target := by
  simp [heading, Work.destination, met, free]

/-- A player who is called to a server is heading for that. -/
theorem heading_of_called {connecting : Connecting} (called : session.connecting = some connecting)
    (alone : session.pending = none) (free : session.player.transfer = none) :
    session.heading = some connecting.server := by
  simp [heading, Work.destination, called, alone, free]

/-- A player for whom nothing else is under way is heading for where it is. -/
theorem heading_of_settled {backend : Backend} (on : session.backend = some backend)
    (alone : session.pending = none) (uncalled : session.connecting = none)
    (free : session.player.transfer = none) : session.heading = some backend.server := by
  simp [heading, Work.destination, on, alone, uncalled, free]

/-- A player on a course is heading somewhere. -/
theorem Course.heading_isSome (course : session.Course) : session.heading.isSome = true := by
  cases course with
  | settled stays alone uncalled free =>
    obtain ⟨backend, on⟩ := Option.isSome_iff_exists.mp stays
    rw [heading_of_settled on alone uncalled free]
    rfl
  | dialing called alone free =>
    obtain ⟨connecting, called⟩ := Option.isSome_iff_exists.mp called
    rw [heading_of_called called alone free]
    rfl
  | loggingIn met _ _ free =>
    rw [heading_of_met met free]
    rfl
  | departing _ _ _ moving =>
    rw [heading_of_moving moving]
    rfl
  | arriving _ _ _ moving =>
    rw [heading_of_moving moving]
    rfl

/-- A player who has a new backend is heading for that. -/
theorem heading_of_pending {pending : PendingBackend} (course : session.Course)
    (met : session.pending = some pending) : session.heading = some pending.arrival.target :=
  @Work.heading_of_destination ⟨session, []⟩ _ (destination_of_pending course met)

end Session

/-! ## The way of a session -/

/-- What a turn adds to the way of a player who is heading somewhere, unless the session is to
end. -/
structure SessionTurn.Follows (servers : List Server) (asked : Prop) (turn after : SessionTurn) :
    Prop where
  trail : ∃ more, after.outputs = turn.outputs ++ more ∧
    Trail servers asked turn.session.heading more after.session.heading
  bound : after.session.exit = none → after.session.heading.isSome = true

namespace SessionTurn

variable {servers : List Server} {asked : Prop} {turn middle after : SessionTurn} {event : Event}

/-- A way that is followed twice is followed. -/
theorem Follows.trans (here : turn.Follows servers asked middle)
    (next : middle.Follows servers asked after) : turn.Follows servers asked after := by
  obtain ⟨⟨first, outputs, trail⟩, -⟩ := here
  obtain ⟨⟨second, others, further⟩, bound⟩ := next
  refine ⟨⟨first ++ second, ?_, trail.append further⟩, bound⟩
  rw [others, outputs, List.append_assoc]

/-- A turn in which nothing was said about where the player is heading. -/
theorem Follows.aside {session : Session} {more : List Output}
    (bound : turn.session.exit = none → turn.session.heading.isSome = true)
    (quiet : ∀ output ∈ more, output.isAside = true)
    (heading : session.heading = turn.session.heading)
    (exit : session.exit = none → turn.session.exit = none) :
    turn.Follows servers asked ⟨session, turn.outputs ++ more⟩ where
  trail := ⟨more, rfl, by rw [heading]; exact .asides quiet⟩
  bound goes := by
    rw [heading]
    exact bound (exit goes)

/-- A turn in which the player was called to a server. -/
theorem Follows.to {session : Session} {more : List Output} {target : Server}
    (heading : session.heading = some target)
    (trail : Trail servers asked turn.session.heading more (some target)) :
    turn.Follows servers asked ⟨session, turn.outputs ++ more⟩ where
  trail := ⟨more, rfl, by rw [heading]; exact trail⟩
  bound _ := by
    rw [heading]
    rfl

/-- What a deed adds to the way of a player. -/
theorem Deed.follows (deed : turn.Deed event after)
    (policy : turn.session.FallsBackOn servers)
    (bound : turn.session.exit = none → turn.session.heading.isSome = true) :
    turn.Follows servers (∃ server, event = .transfer server) after := by
  cases deed with
  | toldClient speaks => exact .aside bound (isAside_of_traffic speaks.traffic) rfl id
  | toldBackend on speaks =>
    refine .aside bound (isAside_of_traffic speaks.traffic) ?_ id
    simp [Session.heading, Work.destination, on]
  | toldPending met speaks =>
    refine .aside bound (isAside_of_traffic speaks.traffic) ?_ id
    simp [Session.heading, Work.destination, met]
  | learned transfer =>
    refine .aside bound (isAside_of_traffic onlyTraffic_counted) ?_ id
    simp [Session.heading, Work.destination, transfer]
  | @tookFromPending pending frame batch met decoded course =>
    have next : (turn.tookFromPending pending frame batch).session.Course :=
      Work.course_of_pending course met
    have target : (turn.session.fromPending pending batch).state.target = pending.arrival.target :=
      (Work.fromPending_progress turn.session pending batch).target
    unfold SessionTurn.tookFromPending at next ⊢
    dsimp only at next ⊢
    rw [List.append_assoc]
    refine .aside bound (isAside_of_traffic ?_) ?_ id
    · exact onlyTraffic_append.mpr ⟨onlyTraffic_counted, onlyTraffic_counted⟩
    · rw [Session.heading_of_pending course met, Session.heading_of_pending next rfl, target]
  | @lostBackend moving =>
    obtain ⟨target, there⟩ := Option.isSome_iff_exists.mp moving
    refine .aside bound (isAside_of_traffic backendClosing_traffic) ?_ id
    have stays : Work.destination { turn.session with backend := none } = some target := there
    simp [Session.heading, there, stays]
  | @fellBack lost reason message heading =>
    have closing : ∀ output ∈ turn.session.pendingClosing ++ turn.session.backendClosing,
        output.isAside = true :=
      isAside_of_traffic (onlyTraffic_append.mpr ⟨pendingClosing_traffic, backendClosing_traffic⟩)
    -- A server that is found is asked for only if it is not the lost one, which the list never is.
    have refuge : turn.adrift.session.refuge lost reason message =
        Server.fallback? servers lost := by
      have policy : turn.session.services.fallback = _ := policy
      simp only [Session.refuge, SessionTurn.adrift, policy]
      cases found : Server.fallback? servers lost with
      | none => rfl
      | some server => simp [Option.filter, Server.other_of_fallback found]
    have sought : turn.adrift.session.services.fallback lost reason message =
        Server.fallback? servers lost := congrFun (congrFun (congrFun policy lost) reason) message
    unfold SessionTurn.fallenBack
    simp only [refuge, sought]
    cases found : Server.fallback? servers lost with
    | none =>
      refine ⟨⟨turn.session.pendingClosing ++ turn.session.backendClosing ++
        [.soughtFallback lost none], ?_, ?_⟩, fun goes => by cases goes⟩
      · simp [SessionTurn.adrift]
      · rw [heading]
        exact (Trail.asides closing).append (.stranded found (.stays none))
    | some server =>
      simp only [SessionTurn.adrift, List.append_assoc]
      refine .to (Session.heading_of_called rfl rfl rfl) ?_
      rw [heading, ← List.append_assoc]
      exact (Trail.asides closing).append (.fell found (.stays _))
  | called asks going free =>
    obtain ⟨aim, heading⟩ := Option.isSome_iff_exists.mp (bound going)
    refine .to (Session.heading_of_called rfl rfl free) ?_
    rw [heading]
    exact .called ⟨_, asks⟩ (.stays _)
  | met called alone free _ target =>
    rw [← List.append_nil turn.outputs]
    refine .aside bound (fun _ mem => by cases mem) ?_ id
    rw [Session.heading_of_called called alone free, ← target]
    exact @Session.heading_of_met _ ⟨_, _⟩ rfl free
  | setOff moving =>
    refine .aside bound (by simp [Output.isAside]) ?_ id
    rw [Session.heading_of_moving moving]
    exact Session.heading_of_moving moving
  | @sentOn _ transfer _ _ _ _ moving _ speaks =>
    refine .aside bound (isAside_of_traffic speaks.traffic) ?_ id
    rw [Session.heading_of_moving moving]
    exact @Session.heading_of_moving _
      { transfer with phase := .arriving, waiting := transfer.waiting.release.2 } rfl
  | arrived on alone uncalled moving there =>
    rw [← List.append_nil turn.outputs]
    refine .aside bound (fun _ mem => by cases mem) ?_ id
    rw [Session.heading_of_moving moving, ← there]
    exact Session.heading_of_settled on alone uncalled rfl
  | @reported source target =>
    refine .aside bound ?_ rfl id
    cases source <;> simp [Output.isAside]
  | ends =>
    rw [← List.append_nil turn.outputs]
    exact .aside bound (fun _ mem => by cases mem) rfl fun goes => by cases goes

/-- What deeds in a row add to it. -/
theorem Deeds.follows (deeds : turn.Deeds event after) (policy : turn.session.FallsBackOn servers)
    (bound : turn.session.exit = none → turn.session.heading.isSome = true) :
    turn.Follows servers (∃ server, event = .transfer server) after ∧
      after.session.FallsBackOn servers ∧ after.session.stage = turn.session.stage := by
  refine deeds.keeps (fun after =>
    turn.Follows servers (∃ server, event = .transfer server) after ∧
      after.session.FallsBackOn servers ∧ after.session.stage = turn.session.stage) ?_ ?_
  · rintro middle after deed ⟨follows, policy, stage⟩
    obtain ⟨same, services⟩ := deed.same
    refine ⟨follows.trans (deed.follows policy follows.bound), ?_, same.trans stage⟩
    rw [Session.FallsBackOn, services]
    exact policy
  · exact ⟨⟨⟨[], (List.append_nil _).symm, .stays _⟩, bound⟩, policy, rfl⟩

/-- A session that is closed down leaves its player nowhere to go. -/
theorem closedDown_trail {exit : Exit} {aim middle : Option Server}
    (trail : Trail servers asked aim turn.outputs middle) :
    Trail servers asked aim (turn.closedDown exit).outputs none := by
  simp only [closedDown, List.append_assoc]
  refine trail.append (.ends (.asides (isAside_of_traffic ?_)))
  exact onlyTraffic_append.mpr ⟨pendingClosing_traffic,
    onlyTraffic_append.mpr ⟨backendClosing_traffic, Peer.onlyTraffic_close⟩⟩

end SessionTurn

namespace Session

variable {session : Session} {servers : List Server}

/-- A session that is playing aims where its player is heading. -/
theorem aim_of_playing (playing : session.stage = .playing) : session.aim = session.heading := by
  unfold aim
  rw [playing]

/-- The way of a player with an event. -/
theorem Takes.trail {event : Event} {ending : Option (SessionTurn × Exit)}
    {result : Session × List Output} (takes : session.Takes event ending result)
    (policy : session.FallsBackOn servers)
    (course : session.stage = .playing → session.Course) :
    Trail servers (∃ server, event = .transfer server) session.aim result.2 result.1.aim ∧
      result.1.FallsBackOn servers := by
  -- While the session plays, its player is on a course, so that the way does not end with a deed.
  have onward {event : Event} {after : SessionTurn} (playing : session.stage = .playing)
      (deeds : SessionTurn.Deeds event ⟨session, []⟩ after) :
      Trail servers (∃ server, event = .transfer server) session.aim after.outputs
          after.session.heading ∧
        after.session.FallsBackOn servers ∧ after.session.stage = .playing := by
    obtain ⟨⟨⟨more, outputs, trail⟩, -⟩, policy, stage⟩ :=
      deeds.follows policy fun _ => (course playing).heading_isSome
    rw [aim_of_playing playing, outputs]
    exact ⟨trail, policy, stage.trans playing⟩
  cases takes with
  | severed link =>
    have same : (session.sever link).aim = session.aim := by
      unfold aim heading Work.destination
      simp [sever, Function.comp_def]
    exact ⟨.of_eq same, policy⟩
  | idle => exact ⟨.stays _, policy⟩
  | @joined server number connection joining bare =>
    have before : session.aim = some server := by
      unfold aim
      rw [joining]
    have after := @heading_of_settled { session with
      stage := .playing
      backend := some ⟨server, session.backendPeer number connection⟩ } _ rfl bare.pending
      bare.connecting bare.transfer
    exact ⟨.of_eq (after.trans before.symm), policy⟩
  | missed => exact ⟨SessionTurn.closedDown_trail (.stays _), policy⟩
  | played playing _ deeds =>
    obtain ⟨trail, policy, stage⟩ := onward playing deeds
    rw [aim_of_playing stage]
    exact ⟨trail, policy⟩
  | ended playing _ deeds =>
    obtain ⟨trail, policy, -⟩ := onward playing deeds
    exact ⟨SessionTurn.closedDown_trail trail, policy⟩

/-- The way of a player in a run. -/
theorem play_trail {moves : List Move} {asked : Prop} (coherent : session.Coherent)
    (policy : session.FallsBackOn servers)
    (asks : ∀ server, .event (.transfer server) ∈ moves → asked) :
    Trail servers asked session.aim (session.play moves).2 (session.play moves).1.aim ∧
      (session.play moves).1.FallsBackOn servers := by
  induction moves generalizing session with
  | nil => exact ⟨.stays _, policy⟩
  | cons move moves ih =>
    have here : Trail servers asked session.aim (session.move move).2 (session.move move).1.aim ∧
        (session.move move).1.FallsBackOn servers := by
      cases move with
      | push packet => exact ⟨.asides (isAside_of_traffic onlyTraffic_counted), policy⟩
      | event event =>
        obtain ⟨trail, policy⟩ := (coherent.takes event).trail policy fun playing =>
          (coherent.of_playing playing).2
        refine ⟨trail.mono ?_, policy⟩
        rintro ⟨server, rfl⟩
        exact asks server List.mem_cons_self
    obtain ⟨trail, policy⟩ := here
    obtain ⟨further, policy⟩ := ih (move_coherent session move coherent) policy fun server mem =>
      asks server (List.mem_cons_of_mem _ mem)
    exact ⟨trail.append further, policy⟩

/-- A session whose player is heading nowhere is over. -/
theorem over_of_aim (coherent : session.Coherent) (nowhere : session.aim = none) :
    session.stage = .over := by
  cases coherent with
  | closed ended => exact ended
  | joining joining =>
    unfold aim at nowhere
    rw [joining] at nowhere
    cases nowhere
  | playing playing _ course =>
    have bound := course.heading_isSome
    rw [← aim_of_playing playing, nowhere] at bound
    cases bound

/-- Whoever is lost, another server is looked for in place of the one that the player was called to
last, and it is the first of the list that is another; it is called for at once, or else the session
is over. So of the servers that are tried in a row no three differ, and, as long as nobody asks for
the player to be elsewhere, all of them differ exactly where they are two at most. -/
theorem play_fallsBack (login : LoginData) (queue : QueueLimits) (waiting : WaitingLimits)
    (client : Connection) (initial : Server) (servers : List Server) (moves : List Move) :
    let opening := (start login ⟨queue, waiting, fun lost _ _ => Server.fallback? servers lost⟩
      client initial).1
    (∀ before lost found after,
      (opening.play moves).2 = before ++ .soughtFallback lost found :: after →
        (initial :: calledFor before).getLast? = some lost ∧
          found = Server.fallback? servers lost ∧
          (∀ server, found = some server →
            ∃ attempt rest, after = .dialed attempt server :: rest) ∧
          (found = none → calledFor after = [] ∧ (opening.play moves).1.stage = .over)) ∧
      ∀ first second, moves = first ++ second →
        let tries := tried ((opening.play first).1.play second).2
        (tries.Pairwise (fun one other => one.same other = false) → tries.length ≤ 2) ∧
          ((∀ server, .event (.transfer server) ∉ second) → tries.length ≤ 2 →
            tries.Pairwise fun one other => one.same other = false) := by
  intro opening
  have policy : opening.FallsBackOn servers := rfl
  have coherent : opening.Coherent := start_coherent _ _ _ _
  constructor
  -- What is looked for, and where, is the same whether or not anybody asks for a server.
  · intro before lost found after parts
    obtain ⟨trail, -⟩ := @play_trail opening servers moves True coherent policy fun _ _ => trivial
    obtain ⟨heading, same, called, stranded⟩ := trail.consults parts
    refine ⟨heading, same, called, fun nowhere => ?_⟩
    obtain ⟨uncalled, ended⟩ := stranded nowhere
    exact ⟨uncalled, over_of_aim (play_keeps Coherent move_coherent moves coherent) ended⟩
  · rintro first second rfl tries
    have middle := play_keeps Coherent move_coherent first coherent
    obtain ⟨-, policy⟩ := @play_trail opening servers first True coherent policy fun _ _ => trivial
    constructor
    · intro distinct
      obtain ⟨trail, -⟩ := @play_trail _ servers second True middle policy fun _ _ => trivial
      exact trail.length_le_of_distinct distinct
    · intro unasked short
      obtain ⟨trail, -⟩ := @play_trail _ servers second False middle policy fun server mem =>
        unasked server mem
      exact trail.distinct_of_length_le id short

end Session

namespace Sample

/-- Three servers to fall back on. -/
def resorts : List Server := [hub, lobby, server "arena" 4]

/-- A session that begins on the survival server, with three servers to fall back on. -/
def fleeting : Session :=
  (Session.start ⟨⟨1⟩, 712, ⟨712, []⟩, none⟩
    ⟨.default, .default, fun lost _ _ => Server.fallback? resorts lost⟩ connection survival).1

/-- The survival server is lost, and then some servers are not to be had. -/
def losses (count : Nat) : List Move :=
  .event (.connected 0 (.ok (0, connection))) :: .event (.backend none) ::
    (List.range count).map fun number => .event (.connected (number + 1) (.error "refused"))

end Sample

namespace Session

/-- The hub is not to be had, and the lobby is called for in its place. -/
theorem play_fallsBack_twice :
    let moves := Sample.losses 1
    let outputs := (Sample.fleeting.play moves).2
    let before : List Output :=
      [.soughtFallback Sample.survival (some Sample.hub), .dialed 1 Sample.hub]
    (∃ after, outputs = before ++ .soughtFallback Sample.hub (some Sample.lobby) :: after ∧
      some Sample.lobby = Server.fallback? Sample.resorts Sample.hub ∧
      ∃ attempt rest, after = .dialed attempt Sample.lobby :: rest) ∧
      (∀ server, .event (.transfer server) ∉ moves) ∧ (tried outputs).length ≤ 2 ∧
      (tried outputs).Pairwise fun one other => one.same other = false := by
  intro moves outputs before
  have unasked : ∀ server, .event (.transfer server) ∉ moves := by
    simp [moves, Sample.losses]
  have short : (tried outputs).length ≤ 2 := by decide +kernel
  obtain ⟨consults, tries⟩ :=
    play_fallsBack ⟨⟨1⟩, 712, ⟨712, []⟩, none⟩ .default .default Sample.connection Sample.survival
      Sample.resorts moves
  obtain ⟨-, found, called, -⟩ := consults before Sample.hub (some Sample.lobby) _ rfl
  exact ⟨⟨_, rfl, found, called Sample.lobby rfl⟩, unasked, short,
    (tries [] moves rfl).2 unasked short⟩

/-- Two servers that are not to be had take turns, and the third is never tried. Nobody tells the
client. -/
theorem fallsBack_cycles :
    let turn := Sample.fleeting.play (Sample.losses 2)
    (tried turn.2).map Server.name = ["hub", "lobby", "hub"] ∧
      (¬(tried turn.2).Pairwise fun one other => one.same other = false) ∧
      heardOn LinkId.isClient turn.2 = [] := by
  decide +kernel

end Session

end Ferry
