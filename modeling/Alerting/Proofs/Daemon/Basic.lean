import Alerting.Daemon
import Alerting.Dispatcher.Session
import Alerting.Proofs.Text.Basic

/-!
# What a daemon takes

Between two requests of a single caller nothing is under way: a batch is served as soon as it is handed
over and answered at once, and when the handle is closed the dispatcher stops.

Input in UTF-8 falls into lines at the same places as its text: the byte that ends a line occurs in no
other character, so every line of the input is UTF-8 again.
-/

namespace Alerting

/-! ## One request at a time -/

variable {σ : Type}

/-- A dispatcher that serves and has nothing to do. -/
def Dispatcher.idle (g : Aggregator) (w : σ) (capacity interval calls : Nat) : Dispatcher σ :=
  { aggregator := g, receiver := w, capacity, interval, phase := .serving, calls }

namespace Session

open Dispatcher

variable (r : Receiver σ) {capacity : Nat} (interval : Nat) (now : Instant)

theorem ask_first_rules (g : Aggregator) (w : σ) (hroom : 0 < capacity) (rules : List SharedRule) :
    ({ dispatcher := { aggregator := g, receiver := w, capacity, interval } } : Session σ).ask r now
        (.rules rules) =
      ({ dispatcher := idle (g.replaceRules rules) w capacity interval 1
         effects :=
          [.log (.started (interval % Nat.pow 2 64)), .log (.rulesReplaced rules.length)] },
        .ok ()) := by
  simp [ask, act, act?, begin, idle, serve, work, serveFor, next?, Channel.next, Channel.join,
    hroom, IsAlive, accept?, Channel.accept?, carryOut, answer, Aggregator.perform]

theorem ask_batch (g : Aggregator) (w : σ) (calls : Nat) (hroom : 0 < capacity)
    (events : List Event) :
    ({ dispatcher := idle g w capacity interval calls } : Session σ).ask r now (.batch events) =
      let turn := g.aggregate r now events w
      ({ dispatcher := idle turn.aggregator turn.receiver capacity interval (calls + 1)
         effects := turn.effects }, turn.result) := by
  simp [ask, act, act?, begin, idle, serve, work, serveFor, next?, Channel.next, Channel.join,
    hroom, IsAlive, accept?, Channel.accept?, carryOut, answer, Aggregator.perform]

theorem close_idle (g : Aggregator) (w : σ) (calls : Nat) :
    let closed := ({ dispatcher := idle g w capacity interval calls } : Session σ).close r now
    closed.dispatcher.aggregator = g ∧ closed.effects = [.log (.stopped g.table.length)] := by
  simp [close, act, act?, idle, serve, work, serveFor, next?, Channel.next]

end Session

end Alerting

namespace Alerting.Daemon

/-! ## Lines -/

open Text

/-- The lines of a text. The last one need not be ended. -/
def linesOf : List Char → List (List Char)
  | [] => []
  | c :: cs =>
    if c = '\n' then [] :: linesOf cs
    else
      match linesOf cs with
      | [] => [[c]]
      | line :: rest => (c :: line) :: rest

def textLines (text : String) : List String := (linesOf text.toList).map String.ofList

theorem newline_not_mem_utf8EncodeChar {c : Char} (h : c ≠ '\n') :
    10 ∉ String.utf8EncodeChar c := by
  intro hmem
  rcases toNat_of_mem_utf8EncodeChar hmem with ⟨hval, -⟩ | ⟨hge, -⟩
  · exact h (Char.ext (UInt32.toNat_inj.1 hval.symm))
  · exact absurd hge (by decide)

theorem lines_append {bs : List UInt8} (hbs : bs ≠ []) (hline : 10 ∉ bs) (rest : List UInt8) :
    lines (bs ++ rest) =
      match lines rest with
      | [] => [bs]
      | line :: more => (bs ++ line) :: more := by
  induction bs with
  | nil => exact absurd rfl hbs
  | cons b bs ih =>
    have hb : b ≠ 10 := fun hb => hline (hb ▸ List.mem_cons_self)
    rw [List.cons_append, lines, if_neg hb]
    cases bs with
    | nil => rw [List.nil_append]; cases lines rest <;> rfl
    | cons b' bs =>
      rw [ih (List.cons_ne_nil b' bs) fun h => hline (List.mem_cons_of_mem b h)]
      cases lines rest <;> rfl

theorem lines_bytes (cs : List Char) : lines (bytes cs) = (linesOf cs).map bytes := by
  induction cs with
  | nil => rfl
  | cons c cs ih =>
    rw [bytes_cons, linesOf]
    split
    · rename_i hc
      subst hc
      show [] :: lines (bytes cs) = _
      rw [ih]
      rfl
    · rename_i hc
      rw [lines_append String.utf8EncodeChar_ne_nil (newline_not_mem_utf8EncodeChar hc), ih]
      cases linesOf cs with
      | nil => simp [bytes]
      | cons line more => simp [bytes]

/-! ## Taking the lines -/

/-- Takes one line of text after the other, the `n`th one at `clock n`. -/
def feedTexts (clock : Nat → Instant) : Nat → Daemon → List String → Daemon
  | _, d, [] => d
  | n, d, line :: rest => feedTexts clock (n + 1) (d.feed (clock n) line) rest

/-- Input in UTF-8 is taken to its end, line by line. -/
theorem feedAll_toUTF8 (clock : Nat → Instant) (n : Nat) (d : Daemon) (text : String) :
    feedAll clock n d (lines text.toUTF8.data.toList) =
      (feedTexts clock n d (textLines text), true) := by
  have hlines : ∀ (ls : List (List Char)) (n : Nat) (d : Daemon),
      feedAll clock n d (ls.map bytes) = (feedTexts clock n d (ls.map String.ofList), true) := by
    intro ls
    induction ls with
    | nil => exact fun _ _ => rfl
    | cons line ls ih =>
      intro n d
      simp only [List.map_cons, feedAll, fromUTF8?_bytes, feedTexts, ih]
  rw [← bytes_eq_toUTF8, lines_bytes, textLines, hlines]

end Alerting.Daemon
