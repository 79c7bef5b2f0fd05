import Alerting.Proofs.Aggregator.Batching
import Alerting.Proofs.Aggregator.Voices

/-!
# The log and the counters

The log and the counters are kept in different places, and tell the same story: as many entries of
each name as the counter of that name says, and one entry for each sweep, in their order, with the
size of the table that it left and the number that it evicted. An event that no rule claims adds
nothing.

Each call is followed at once by the entry for its answer, which names the fingerprint and tells how
many events were delivered, and there are no other such entries. If the receiver writes into the
log, each notification is followed at once by the entry that it was sent.

What a receiver tells on its own changes nothing else in a run and stands right behind its calls.
The entries are counted without it, and with it unless it borrows the names of the aggregator.
-/

namespace Alerting

/-! ## Entries by name -/

namespace Log.Entry

def event? (e : Entry) : Option String :=
  match e.fields.lookup "event" with
  | some (.text name) => some name
  | _ => none

def number? (name : String) (e : Entry) : Option Nat :=
  match e.fields.lookup name with
  | some (.number n) => some n
  | _ => none

theorem event?_eq (e : Entry) :
    e.event? = match e with
      | .created _ _ => some "aggregation.created"
      | .sent _ _ => some "notification.sent"
      | .deferred _ _ => some "notification.deferred"
      | .dropped _ _ => some "notification.dropped"
      | .notification _ => some "notification"
      | .rulesReplaced _ => some "rules.replaced"
      | .swept _ _ => some "sweep.completed"
      | .stopped _ => some "aggregator.stopped"
      | _ => none := by
  cases e <;> rfl

end Log.Entry

def Effect.named (name : String) (effects : List Effect) : List Log.Entry :=
  (effects.filterMap Effect.entry?).filter fun e => e.event? = some name

theorem Effect.named_append (name : String) (l₁ l₂ : List Effect) :
    named name (l₁ ++ l₂) = named name l₁ ++ named name l₂ := by
  simp [named]

/-! ## Pairs -/

/-- Each element of a list that calls for a partner is followed by it at once, and there are no partners
elsewhere. -/
structure Paired {α : Type} (partner? : α → Option α) (IsPartner : α → Prop) (l : List α) : Prop where
  followed : ∀ before x after y, l = before ++ x :: after → partner? x = some y →
    ∃ rest, after = y :: rest
  preceded : ∀ before y after, l = before ++ y :: after → IsPartner y →
    ∃ past x, before = past ++ [x] ∧ partner? x = some y

namespace Paired

variable {α : Type} {partner? : α → Option α} {IsPartner : α → Prop}

theorem nil : Paired partner? IsPartner [] := by
  constructor <;> intro before _ after <;> simp

theorem append {l₁ l₂ : List α} (h₁ : Paired partner? IsPartner l₁)
    (h₂ : Paired partner? IsPartner l₂) : Paired partner? IsPartner (l₁ ++ l₂) := by
  constructor
  · intro before x after y hsplit hy
    rcases List.append_eq_append_iff.1 hsplit with ⟨l, rfl, hl⟩ | ⟨l, rfl, hl⟩
    · exact h₂.followed l x after y hl hy
    · cases l with
      | nil => exact h₂.followed [] x after y hl.symm hy
      | cons x' l =>
        obtain ⟨rfl, rfl⟩ := List.cons.inj hl
        obtain ⟨rest, rfl⟩ := h₁.followed before x l y rfl hy
        exact ⟨rest ++ l₂, rfl⟩
  · intro before y after hsplit hy
    rcases List.append_eq_append_iff.1 hsplit with ⟨l, rfl, hl⟩ | ⟨l, rfl, hl⟩
    · obtain ⟨past, x, rfl, hx⟩ := h₂.preceded l y after hl hy
      exact ⟨l₁ ++ past, x, (List.append_assoc ..).symm, hx⟩
    · cases l with
      | nil =>
        obtain ⟨past, x, hpast, -⟩ := h₂.preceded [] y after hl.symm hy
        simp at hpast
      | cons y' l =>
        obtain ⟨rfl, rfl⟩ := List.cons.inj hl
        exact h₁.preceded before y l rfl hy

theorem single {x : α} (hx : partner? x = none) (hx' : ¬IsPartner x) :
    Paired partner? IsPartner [x] := by
  constructor
  · intro before x' after y hsplit hy
    obtain ⟨rfl, rfl⟩ : x' = x ∧ before = [] := by
      cases before <;> simp_all
    rw [hx] at hy
    cases hy
  · intro before y after hsplit hy
    obtain rfl : y = x := by
      cases before <;> simp_all
    exact absurd hy hx'

theorem pair {x y : α} (hxy : partner? x = some y) (hx : ¬IsPartner x) (hy : partner? y = none) :
    Paired partner? IsPartner [x, y] := by
  constructor
  · rintro (_ | ⟨b, _ | ⟨b', before⟩⟩) x' after y' hsplit hy'
    · obtain ⟨rfl, rfl⟩ := List.cons.inj hsplit
      obtain rfl := Option.some.inj (hxy.symm.trans hy')
      exact ⟨[], rfl⟩
    · obtain ⟨-, hsplit⟩ := List.cons.inj hsplit
      obtain ⟨rfl, rfl⟩ := List.cons.inj hsplit
      rw [hy] at hy'
      cases hy'
    · simp at hsplit
  · rintro (_ | ⟨b, _ | ⟨b', before⟩⟩) y' after hsplit hy'
    · obtain ⟨rfl, rfl⟩ := List.cons.inj hsplit
      exact absurd hy' hx
    · obtain ⟨hb, hsplit⟩ := List.cons.inj hsplit
      obtain ⟨rfl, rfl⟩ := List.cons.inj hsplit
      exact ⟨[], b, rfl, hb ▸ hxy⟩
    · simp at hsplit

theorem all {l : List α} (h : ∀ x ∈ l, partner? x = none ∧ ¬IsPartner x) :
    Paired partner? IsPartner l := by
  induction l with
  | nil => exact nil
  | cons x rest ih =>
    rw [List.forall_mem_cons] at h
    exact (single h.1.1 h.1.2).append (ih h.2)

theorem flatMap {β : Type} {f : β → List α} {l : List β}
    (h : ∀ x ∈ l, Paired partner? IsPartner (f x)) : Paired partner? IsPartner (l.flatMap f) := by
  induction l with
  | nil => exact nil
  | cons x rest ih =>
    rw [List.forall_mem_cons] at h
    exact h.1.append (ih h.2)

end Paired

/-! ## What is told about an answer -/

/-- What has to follow a call. -/
def Effect.verdict? : Effect → Option Effect
  | .call summary answer => some (.log (summary.verdict answer))
  | .log _ => none

def Effect.IsVerdict : Effect → Prop
  | .log (.sent _ _) | .log (.deferred _ _) | .log (.dropped _ _) => True
  | _ => False

/-- What has to follow a notification for the readers of the log. -/
def Log.Entry.confirmation? : Log.Entry → Option Log.Entry
  | .notification s => some (.sent s.fingerprint s.events.length)
  | _ => none

def Log.Entry.IsConfirmation : Log.Entry → Prop
  | .sent _ _ => True
  | _ => False

namespace Aggregator

open Answer Effect

variable {σ : Type} {r : Receiver σ}

/-- What the log tells when an aggregation is reached: something only if it is opened. -/
def openingEntries (g : Aggregator) (f : Fingerprint) (rule : SharedRule) : List Log.Entry :=
  if g.table.get? f = none then [.created f rule, .counted "aggregations_created"] else []

theorem log_land (g : Aggregator) (rule : SharedRule) (now : Instant) (e : Event) :
    (g.land rule now e).log = g.openingEntries e.fingerprint rule := by
  unfold land reach openingEntries
  cases g.table.get? e.fingerprint <;> rfl

/-- What a claimed event tells: an opening, the call with what the receiver tells on its own, the
answer, and the count. -/
theorem effects_take (r : Receiver σ) (g : Aggregator) (w : σ) {e : Event} (now : Instant)
    {rule : SharedRule} (h : SharedRule.firstMatch? g.rules e = some rule) :
    (g.take r now w e).effects = (g.openingEntries e.fingerprint rule).map .log ++
      let a := (g.land rule now e).aggregation
      let response := r.receive w a.summary
      if a.dispatch = .sent then []
      else .call a.summary response.answer :: (response.log ++ a.summary.verdict response.answer ::
        countedEntries (.ofAnswer response.answer)).map .log := by
  unfold take
  rw [h]
  dsimp only
  rw [log_land]
  cases hd : (g.land rule now e).aggregation.dispatch with
  | sent => simp [Aggregation.send, hd, countedEntries]
  | unsent =>
    simp only [Aggregation.send, hd, reduceCtorEq, if_false, List.append_assoc, List.map_append,
      List.map_cons, List.map_nil, List.cons_append, List.nil_append]

/-! ## Counting entries -/

/-- The entries among effects tell of these openings, of the answers in these calls, and of these
sweeps. -/
structure Records (effects : List Effect) (opened : Nat) (calls : List (Summary × Answer))
    (sweeps evicted : Nat) : Prop where
  created : (named "aggregation.created" effects).length = opened
  sent : (named "notification.sent" effects).length = given isSuccess calls
  deferred : (named "notification.deferred" effects).length = given isRetryable calls
  dropped : (named "notification.dropped" effects).length = given isPermanent calls
  sweeps : (named "sweep.completed" effects).length = sweeps
  evicted : ((named "sweep.completed" effects).filterMap (Log.Entry.number? "evicted")).sum = evicted

theorem records_nil : Records [] 0 [] 0 0 := ⟨rfl, rfl, rfl, rfl, rfl, rfl⟩

theorem Records.append {l₁ l₂ : List Effect} {opened₁ opened₂ sweeps₁ sweeps₂ evicted₁ evicted₂ : Nat}
    {calls₁ calls₂ : List (Summary × Answer)} (h₁ : Records l₁ opened₁ calls₁ sweeps₁ evicted₁)
    (h₂ : Records l₂ opened₂ calls₂ sweeps₂ evicted₂) :
    Records (l₁ ++ l₂) (opened₁ + opened₂) (calls₁ ++ calls₂) (sweeps₁ + sweeps₂)
      (evicted₁ + evicted₂) := by
  constructor <;>
    simp only [named_append, List.length_append, given_append, List.filterMap_append, List.sum_append]
  · rw [h₁.created, h₂.created]
  · rw [h₁.sent, h₂.sent]
  · rw [h₁.deferred, h₂.deferred]
  · rw [h₁.dropped, h₂.dropped]
  · rw [h₁.sweeps, h₂.sweeps]
  · rw [h₁.evicted, h₂.evicted]

theorem records_opening (g : Aggregator) (f : Fingerprint) (rule : SharedRule) :
    Records ((g.openingEntries f rule).map .log)
      (if g.table.get? f = none then [f] else []).length [] 0 0 := by
  unfold openingEntries
  split <;> exact ⟨rfl, rfl, rfl, rfl, rfl, rfl⟩

theorem records_answer (s : Summary) (answer : Answer) :
    Records (.call s answer :: ([] ++ s.verdict answer :: countedEntries (.ofAnswer answer)).map .log) 0
      [(s, answer)] 0 0 := by
  rcases answer with (_ | _) | _ <;> exact ⟨rfl, rfl, rfl, rfl, rfl, rfl⟩

/-- What the log has to tell of a moment. -/
def Recorded (m : Moment) : Prop :=
  Records m.effects m.opened.length m.calls m.deed.sweeps m.evicted.length

theorem opened_of_still {m : Moment} (h : m.after.table = m.before.table) :
    m.opened = [] ∧ m.evicted = [] := by
  rw [Moment.opened, Moment.evicted, h]
  exact ⟨gone_of_subset (List.Subset.refl _), gone_of_subset (List.Subset.refl _)⟩

theorem recorded_take (r : Receiver σ) (g : Aggregator) (w : σ) (e : Event) (now : Instant) :
    Recorded (g.moment r.muted w (.take e now)) := by
  unfold Recorded
  rw [evicted_take]
  cases h : SharedRule.firstMatch? g.rules e with
  | none =>
    have hturn := take_of_unclaimed r.muted g w now h
    have htable : (g.moment r.muted w (.take e now)).after.table = g.table := by
      rw [moment, does, hturn]
    have heffects : (g.moment r.muted w (.take e now)).effects = [] := by
      rw [moment, does, hturn]
    rw [calls_moment_of_unclaimed r.muted g w now h, (opened_of_still htable).1, heffects]
    exact records_nil
  | some rule =>
    have heffects : (g.moment r.muted w (.take e now)).effects = _ := effects_take r.muted g w now h
    have hopening := records_opening g e.fingerprint rule
    rw [heffects, opened_take r.muted g w now h, calls_moment_take r.muted w h rfl]
    dsimp only
    cases hd : (g.land rule now e).aggregation.dispatch with
    | sent =>
      rw [if_pos rfl, Aggregation.send_of_sent r.muted w hd]
      exact hopening.append records_nil
    | unsent =>
      rw [if_neg (by simp), Aggregation.calls_send_of_unsent r.muted w hd]
      exact hopening.append (records_answer _ _)

theorem recorded_moment (r : Receiver σ) {g : Aggregator} (w : σ) (d : Deed) (hg : g.table.Proper) :
    Recorded (g.moment r.muted w d) := by
  cases d with
  | take e now => exact recorded_take r g w e now
  | sweep now =>
    have hevicted : (g.moment r.muted w (.sweep now)).evicted.length = g.evictions now :=
      length_gone now hg.distinct
    unfold Recorded
    rw [opened_sweep, hevicted]
    exact ⟨rfl, rfl, rfl, rfl, rfl, rfl⟩
  | announce events =>
    unfold Recorded
    rw [(opened_of_still rfl).1, (opened_of_still rfl).2]
    exact ⟨rfl, rfl, rfl, rfl, rfl, rfl⟩
  | gauge | reject =>
    unfold Recorded
    rw [(opened_of_still rfl).1, (opened_of_still rfl).2]
    exact records_nil
  | replaceRules rules =>
    unfold Recorded
    rw [(opened_of_still rfl).1, (opened_of_still rfl).2]
    exact ⟨rfl, rfl, rfl, rfl, rfl, rfl⟩

theorem Trail.records {grace : Span} {g : Aggregator} {w w' : σ} {past : List Moment}
    (h : Trail r.muted (.new grace) w past g w') :
    Records (past.flatMap (·.effects)) (past.flatMap Moment.opened).length (past.flatMap Moment.calls)
      (past.map (·.deed.sweeps)).sum (past.flatMap Moment.evicted).length := by
  induction h with
  | start => exact records_nil
  | @next past g' w' d htrail ih =>
    have hmoment := recorded_moment r w' d (htrail.proper Table.proper_nil)
    simp only [List.flatMap_append, List.map_append, List.length_append, List.sum_append,
      List.flatMap_singleton, List.map_singleton, List.sum_singleton]
    exact ih.append hmoment

/-- As many entries of each name as the counters say, and the entries of the sweeps say how many
aggregations they evicted. -/
structure Tallies (effects : List Effect) (c : Counters) : Prop where
  created : c.created = .ofNat (named "aggregation.created" effects).length
  sent : c.sent = .ofNat (named "notification.sent" effects).length
  deferred : c.deferred = .ofNat (named "notification.deferred" effects).length
  dropped : c.dropped = .ofNat (named "notification.dropped" effects).length
  sweeps : c.sweeps = .ofNat (named "sweep.completed" effects).length
  evicted : c.evicted =
    .ofNat ((named "sweep.completed" effects).filterMap (Log.Entry.number? "evicted")).sum

theorem tallies_muted (r : Receiver σ) (grace : Span) (w : σ) (ops : List Operation) :
    let quiet := performAll r.muted (.new grace) w ops
    Tallies quiet.effects quiet.aggregator.counters := by
  intro quiet
  have htrail := trail_history r.muted (.new grace) w ops
  have hrecords := htrail.records
  have htotals : Totals _ quiet.aggregator.counters := htrail.totals
  rw [← effects_history] at hrecords
  constructor
  · rw [htotals.created, hrecords.created]
  · rw [htotals.sent, hrecords.sent]
  · rw [htotals.deferred, hrecords.deferred]
  · rw [htotals.dropped, hrecords.dropped]
  · rw [htotals.sweeps, hrecords.sweeps]
  · rw [htotals.evicted, hrecords.evicted]

/-! ## Receivers that keep to themselves -/

def countedNames : List String :=
  ["aggregation.created", "notification.sent", "notification.deferred", "notification.dropped",
    "sweep.completed"]

/-- The receiver tells nothing under the names of the aggregator. -/
def Discreet (r : Receiver σ) : Prop :=
  ∀ w summary, ∀ entry ∈ (r.receive w summary).log, ∀ name ∈ countedNames, entry.event? ≠ some name

theorem discreet_log : Discreet (Receiver.log : Receiver σ) := by
  intro w summary entry hentry name hname
  rw [List.mem_singleton.1 hentry, Log.Entry.event?_eq]
  rintro heq
  obtain rfl := Option.some.inj heq
  exact absurd hname (by decide)

theorem named_voiced (hr : Discreet r) {name : String} (hname : name ∈ countedNames) (w : σ)
    (effects : List Effect) : named name (r.voiced w effects) = named name effects := by
  induction effects generalizing w with
  | nil => rfl
  | cons effect rest ih =>
    cases effect with
    | log entry =>
      rw [Receiver.voiced, ← List.singleton_append, named_append, ih, ← named_append]
      rfl
    | call summary answer =>
      have hown : named name ((r.receive w summary).log.map .log) = [] := by
        unfold named
        rw [List.filterMap_map, List.filter_eq_nil_iff]
        intro entry hentry
        simp only [Function.comp_def, entry?, List.filterMap_some] at hentry
        simpa using hr w summary entry hentry name hname
      rw [Receiver.voiced, ← List.singleton_append, named_append, named_append, hown, ih,
        List.nil_append, ← named_append]
      rfl

theorem Tallies.voiced {effects : List Effect} {c : Counters} (h : Tallies effects c)
    (hr : Discreet r) (w : σ) : Tallies (r.voiced w effects) c := by
  have hnamed : ∀ name ∈ countedNames, named name (r.voiced w effects) = named name effects :=
    fun name hname => named_voiced hr hname w effects
  simp only [countedNames, List.forall_mem_cons] at hnamed
  obtain ⟨hcreated, hsent, hdeferred, hdropped, hswept, -⟩ := hnamed
  constructor
  · rw [hcreated, h.created]
  · rw [hsent, h.sent]
  · rw [hdeferred, h.deferred]
  · rw [hdropped, h.dropped]
  · rw [hswept, h.sweeps]
  · rw [hswept, h.evicted]

/-! ## Sweeps -/

/-- What a sweep has to tell: the size of the table that it has left, and how much it has evicted. -/
def account? (turn : Turn σ Outcome) : Option Log.Entry :=
  match turn.result with
  | .swept evicted => some (.swept turn.aggregator.table.length evicted)
  | .replied _ => none

theorem named_swept_takeAll (r : Receiver σ) (now : Instant) (g : Aggregator) (w : σ)
    (events : List Event) :
    named "sweep.completed" (takeAll r.muted now g w events).effects = [] := by
  induction events generalizing g w with
  | nil => rfl
  | cons e rest ih =>
    have hfirst : named "sweep.completed" (g.take r.muted now w e).effects = [] :=
      List.eq_nil_of_length_eq_zero (recorded_take r g w e now).sweeps
    rw [takeAll, named_append, hfirst, ih]
    rfl

theorem named_swept_performAll (r : Receiver σ) (g : Aggregator) (w : σ) (ops : List Operation) :
    named "sweep.completed" (performAll r.muted g w ops).effects =
      (turns r g w ops).filterMap account? := by
  induction ops generalizing g w with
  | nil => rfl
  | cons op rest ih =>
    have hvoices := perform_voices r g w op
    have haggregator : (g.perform r w op).aggregator = (g.perform r.muted w op).aggregator := by
      rw [hvoices.eq]
    have hreceiver : (g.perform r w op).receiver = (g.perform r.muted w op).receiver := by
      rw [hvoices.eq]
    have hfirst : named "sweep.completed" (g.perform r.muted w op).effects =
        (account? (g.perform r w op)).toList := by
      cases op with
      | aggregate events now =>
        simp only [perform, aggregate]
        split
        · rfl
        · change named "sweep.completed" ([.log _] ++ (takeAll r.muted now _ w events).effects) = _
          rw [named_append, named_swept_takeAll]
          rfl
      | replaceRules rules => rfl
      | sweep now => rfl
    rw [performAll, named_append, hfirst, ih, turns, haggregator, hreceiver, List.filterMap_cons]
    cases account? (g.perform r w op) <;> rfl

/-! ## Answers -/

theorem paired_answer (s : Summary) (answer : Answer) :
    Paired verdict? IsVerdict
      (.call s answer :: ([] ++ s.verdict answer :: countedEntries (.ofAnswer answer)).map .log) := by
  have hpair : Paired verdict? IsVerdict [.call s answer, .log (s.verdict answer)] := .pair rfl id rfl
  rcases answer with (_ | _) | _
  · exact hpair
  · exact hpair
  · exact hpair.append (.single rfl id)

theorem paired_take (r : Receiver σ) (g : Aggregator) (w : σ) (e : Event) (now : Instant) :
    Paired verdict? IsVerdict (g.take r.muted now w e).effects := by
  cases h : SharedRule.firstMatch? g.rules e with
  | none =>
    rw [take_of_unclaimed r.muted g w now h]
    exact .nil
  | some rule =>
    rw [effects_take r.muted g w now h]
    refine .append (.all ?_) ?_
    · unfold openingEntries
      split <;> simp [verdict?, IsVerdict]
    · dsimp only
      split
      · exact .nil
      · exact paired_answer _ _

theorem paired_moment (r : Receiver σ) (g : Aggregator) (w : σ) (d : Deed) :
    Paired verdict? IsVerdict (g.moment r.muted w d).effects := by
  cases d with
  | take e now => exact paired_take r g w e now
  | gauge | reject => exact .nil
  | announce _ | replaceRules _ | sweep _ => exact .single rfl id

theorem filterMap_entry?_log (entries : List Log.Entry) :
    (entries.map .log).filterMap entry? = entries := by
  rw [List.filterMap_map]
  exact List.filterMap_some

theorem confirmed_take (g : Aggregator) (w : σ) (e : Event) (now : Instant) :
    Paired Log.Entry.confirmation? Log.Entry.IsConfirmation
      ((g.take .log now w e).effects.filterMap entry?) := by
  cases h : SharedRule.firstMatch? g.rules e with
  | none =>
    rw [take_of_unclaimed .log g w now h]
    exact .nil
  | some rule =>
    rw [effects_take .log g w now h, List.filterMap_append, filterMap_entry?_log]
    refine .append (.all ?_) ?_
    · unfold openingEntries
      split <;> simp [Log.Entry.confirmation?, Log.Entry.IsConfirmation]
    · dsimp only
      split
      · exact .nil
      · have hpair : Paired Log.Entry.confirmation? Log.Entry.IsConfirmation
            [.notification (g.land rule now e).aggregation.summary, .sent _ _] := .pair rfl id rfl
        -- only the counting of the delivery comes after it
        exact hpair.append (.single rfl id)

theorem confirmed_moment (g : Aggregator) (w : σ) (d : Deed) :
    Paired Log.Entry.confirmation? Log.Entry.IsConfirmation
      ((g.moment .log w d).effects.filterMap entry?) := by
  cases d with
  | take e now => exact confirmed_take g w e now
  | gauge | reject => exact .nil
  | announce _ | replaceRules _ | sweep _ => exact .single rfl id

theorem exists_moment {g : Aggregator} {w : σ} {ops : List Operation} {m : Moment}
    (hm : m ∈ history r g w ops) : ∃ (g' : Aggregator) (w' : σ), m = g'.moment r w' m.deed := by
  obtain ⟨past, rest, hrun⟩ := List.append_of_mem hm
  obtain ⟨g', w', -, h⟩ := (trail_history r g w ops).at_moment hrun
  exact ⟨g', w', h⟩

theorem paired_performAll (r : Receiver σ) (g : Aggregator) (w : σ) (ops : List Operation) :
    Paired verdict? IsVerdict (performAll r.muted g w ops).effects := by
  rw [effects_history]
  refine .flatMap fun m hm => ?_
  obtain ⟨g', w', heq⟩ := exists_moment hm
  rw [heq]
  exact paired_moment r g' w' m.deed

theorem confirmed_performAll (g : Aggregator) (w : σ) (ops : List Operation) :
    Paired Log.Entry.confirmation? Log.Entry.IsConfirmation
      ((performAll .log g w ops).effects.filterMap entry?) := by
  rw [effects_history, List.filterMap_flatMap]
  refine .flatMap fun m hm => ?_
  obtain ⟨g', w', heq⟩ := exists_moment hm
  rw [heq]
  exact confirmed_moment g' w' m.deed

/-! ## Events that no rule claims -/

theorem take_counters (r : Receiver σ) (now : Instant) (g : Aggregator) (w : σ) (e : Event)
    (c : Counters) : ∃ c', take r now { g with counters := c } w e =
      let turn := g.take r now w e
      { turn with aggregator := { turn.aggregator with counters := c' } } := by
  cases h : SharedRule.firstMatch? g.rules e with
  | none => exact ⟨{ c with unmatched := c.unmatched + 1 }, by simp [take, h]⟩
  | some rule =>
    cases hreach : g.table.get? e.fingerprint <;>
      exact ⟨_, by simp only [take, h, land, reach, hreach, settle, deadline]; rfl⟩

theorem effects_takeAll_counters (r : Receiver σ) (now : Instant) (g : Aggregator) (w : σ)
    (events : List Event) (c : Counters) :
    (takeAll r now { g with counters := c } w events).effects = (takeAll r now g w events).effects := by
  induction events generalizing g w c with
  | nil => rfl
  | cons e rest ih =>
    obtain ⟨c', hc'⟩ := take_counters r now g w e c
    simp only [takeAll, hc', ih]

theorem effects_takeAll_unclaimed (r : Receiver σ) (now : Instant) (g : Aggregator) (w : σ) {e : Event}
    (xs ys : List Event) (h : SharedRule.firstMatch? g.rules e = none) :
    (takeAll r now g w (xs ++ e :: ys)).effects = (takeAll r now g w (xs ++ ys)).effects := by
  induction xs generalizing g w with
  | nil =>
    rw [List.nil_append, List.nil_append, takeAll, take_of_unclaimed r g w now h]
    exact effects_takeAll_counters r now g w ys _
  | cons x rest ih =>
    have hrules : SharedRule.firstMatch? (g.take r now w x).aggregator.rules e = none := by
      rwa [rules_take]
    simp only [List.cons_append, takeAll, ih _ _ hrules]

theorem effects_unclaimed (r : Receiver σ) (g : Aggregator) (w : σ) (now : Instant) {e : Event}
    (xs ys : List Event) (h : SharedRule.firstMatch? g.rules e = none) :
    ∃ told, (g.perform r w (.aggregate (xs ++ e :: ys) now)).effects =
        g.announcement (xs ++ e :: ys) ++ told ∧
      (g.perform r w (.aggregate (xs ++ ys) now)).effects = g.announcement (xs ++ ys) ++ told := by
  by_cases hrules : g.rules.isEmpty
  · exact ⟨[], by simp [perform, aggregate, announcement, hrules],
      by simp [perform, aggregate, announcement, hrules]⟩
  · refine ⟨(takeAll r now g w (xs ++ ys)).effects, ?_, ?_⟩
    · rw [← effects_takeAll_unclaimed r now g w xs ys h]
      simp only [perform, aggregate_of_rules r now hrules, announcement, if_neg hrules]
      rfl
    · simp only [perform, aggregate_of_rules r now hrules, announcement, if_neg hrules]
      rfl

/-! ## The whole story -/

/-- **The log and the counters.** The log has as many entries of each name as counted, and each
answer right behind its call. -/
theorem log_agrees_with_counters (r : Receiver σ) (grace : Span) (w : σ) (ops : List Operation) :
    let run := performAll r (.new grace) w ops
    let quiet := performAll r.muted (.new grace) w ops
    let written := performAll .log (.new grace) w ops
    (run = { quiet with effects := r.voiced w quiet.effects } ∧
      Tallies quiet.effects run.aggregator.counters ∧
      (Discreet r → Tallies run.effects run.aggregator.counters)) ∧
    named "sweep.completed" quiet.effects = (turns r (.new grace) w ops).filterMap account? ∧
    Paired verdict? IsVerdict quiet.effects ∧
    (Tallies written.effects written.aggregator.counters ∧
      Paired Log.Entry.confirmation? Log.Entry.IsConfirmation (written.effects.filterMap entry?)) ∧
    ∀ now xs e ys, SharedRule.firstMatch? run.aggregator.rules e = none →
      ∃ told, (run.aggregator.perform r run.receiver (.aggregate (xs ++ e :: ys) now)).effects =
          run.aggregator.announcement (xs ++ e :: ys) ++ told ∧
        (run.aggregator.perform r run.receiver (.aggregate (xs ++ ys) now)).effects =
          run.aggregator.announcement (xs ++ ys) ++ told := by
  intro run quiet written
  have htallies {r : Receiver σ} : Discreet r →
      Tallies (performAll r (.new grace) w ops).effects
        (performAll r (.new grace) w ops).aggregator.counters := by
    intro hr
    have hvoiced := (tallies_muted r grace w ops).voiced hr w
    rwa [(performAll_voices r (.new grace) w ops).eq]
  have hrun : run = { quiet with effects := r.voiced w quiet.effects } :=
    (performAll_voices r (.new grace) w ops).eq
  refine ⟨⟨hrun, ?_, htallies⟩, named_swept_performAll r _ w ops, paired_performAll r _ w ops,
    ⟨htallies discreet_log, confirmed_performAll _ w ops⟩, ?_⟩
  · rw [hrun]
    exact tallies_muted r grace w ops
  · intro now xs e ys hunclaimed
    exact effects_unclaimed r run.aggregator run.receiver now xs ys hunclaimed

end Aggregator

end Alerting
