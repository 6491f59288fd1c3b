import TunnelClient.Proofs.Address.Dotted
import TunnelClient.Proofs.Route.Routing
import TunnelClient.Proofs.Text.Blank
import TunnelClient.Route.Command

/-!
# The command table and the one in memory

The table behind the `ip` command against the one in memory.  For a program that keeps a default
gateway and a map of hosts, and says so as `ip` does, both give the same answers to all calls.
-/

namespace TunnelClient

open Text.Utf8 (asciiBytes lossyChars)

/-! ## The program -/

def RouteChange.command : RouteChange → List String
  | setDefault gateway => ["-4", "route", "add", "default", "via", gateway.text]
  | clearDefault => ["-4", "route", "del", "default"]
  | setHost gateway host => ["-4", "route", "add", host.text ++ "/32", "via", gateway.text]
  | clearHost host => ["-4", "route", "del", host.text ++ "/32"]

/-- What is printed of the default route: its gateway and any further words, or nothing. -/
def ShowsDefault (stdout : List UInt8) : Option Ipv4 → Prop
  | none => stdout = []
  | some gateway => ∃ further, stdout =
      asciiBytes "default via ".toList ++ asciiBytes gateway.text.toList ++ further ∧
        Text.Breaks (lossyChars further)

/-- A program that keeps routes.  It prints the default one, adds what is new, removes what is
there, and fails otherwise, in the words of `ip` if there is nothing to remove. -/
structure Program.KeepsRoutes {σ : Type} (p : Program σ) (routing : σ → Routing) : Prop where
  shows : ∀ s, ∃ out s', p.run ["-4", "route", "show", "default"] s = (.ok out, s') ∧
    out.exitCode = 0 ∧ ShowsDefault out.stdout (routing s).default ∧ routing s' = routing s
  changes : ∀ c s, (routing s).Possible c → ∃ out s', p.run c.command s = (.ok out, s') ∧
    out.exitCode = 0 ∧ routing s' = (routing s).put c
  refuses : ∀ c s, ¬ (routing s).Possible c → ∃ out s', p.run c.command s = (.ok out, s') ∧
    out.exitCode ≠ 0 ∧ routing s' = routing s ∧
      (c.gateway? = none → ∃ before after,
        out.stderr = before ++ asciiBytes "No such process".toList ++ after)

namespace IpCommand

/-! ## Reading what is printed -/

theorem contains_append {needle : List Char} (nonempty : needle ≠ []) (before after : List Char) :
    contains needle (before ++ needle ++ after) = true := by
  induction before with
  | nil =>
      cases needle with
      | nil => exact absurd rfl nonempty
      | cons c needle =>
          rw [List.nil_append, List.cons_append, contains]
          simp
  | cons c before ih =>
      rw [List.cons_append, List.cons_append, contains, ih, Bool.or_true]

private theorem gatewayAfterVia?_printed (gateway : Ipv4) {more : List Char}
    (breaks : Text.Breaks more) :
    gatewayAfterVia? (Text.words ("default via ".toList ++ gateway.text.toList ++ more)) =
      some gateway := by
  have space : ∀ rest, Text.Breaks (' ' :: rest) := by
    rintro rest c ⟨⟩
    decide
  have words : Text.words ("default via ".toList ++ gateway.text.toList ++ more) =
      "default".toList :: ['v', 'i', 'a'] :: gateway.text.toList :: Text.words more := by
    change Text.words ("default".toList ++ ' ' :: (['v', 'i', 'a'] ++ ' ' ::
      (gateway.text.toList ++ more))) = _
    rw [Text.words_append (by decide) (by decide) (space _), Text.words_blank_cons (by decide),
      Text.words_append (by decide) (by decide) (space _), Text.words_blank_cons (by decide),
      Text.words_append gateway.solid_text gateway.text_ne_nil breaks]
  rw [words, gatewayAfterVia?, if_neg (by decide), gatewayAfterVia?, if_pos rfl]
  exact gateway.parseChars?_text

theorem gateway?_printed (gateway : Ipv4) {further : List UInt8}
    (breaks : Text.Breaks (lossyChars further)) :
    gateway? (Text.Utf8.decodeLossy (asciiBytes "default via ".toList ++
      asciiBytes gateway.text.toList ++ further)) = some gateway := by
  have printed : (Text.Utf8.decodeLossy (asciiBytes "default via ".toList ++
      asciiBytes gateway.text.toList ++ further)).toList =
        "default via ".toList ++ gateway.text.toList ++ lossyChars further := by
    rw [Text.Utf8.toList_decodeLossy, List.append_assoc,
      Text.Utf8.lossyChars_asciiBytes_append (by decide),
      Text.Utf8.lossyChars_asciiBytes_append gateway.isAscii_text, List.append_assoc]
  have whole : '\n' ∉ "default via ".toList ++ gateway.text.toList := by
    intro mem
    rcases List.mem_append.mp mem with front | back
    · exact absurd front (by decide)
    · exact absurd (gateway.solid_text _ back) (by decide)
  -- Had it ended in a carriage return, a line feed behind it would have cut that off.
  obtain ⟨digit, last, isDigit⟩ := gateway.text_getLast?
  have ends : ("default via ".toList ++ gateway.text.toList).getLast? = some digit := by
    rw [List.getLast?_append, last]
    rfl
  have ne : digit ≠ '\r' := Text.Numeral.ne_of_isDigit isDigit (by decide)
  obtain ⟨more, others, lines, breaks'⟩ := Text.lines_append whole ends ne breaks
  have starts :
      startsWithDefault ("default via ".toList ++ gateway.text.toList ++ more) = true := by
    rw [startsWithDefault, List.append_assoc, Text.trimLeft_of_solid]
    · rfl
    · rintro c ⟨⟩
      decide
  rw [gateway?, printed, lines, List.filter_cons, if_pos starts, List.findSome?_cons,
    gatewayAfterVia?_printed gateway breaks']

private theorem isGone_printed (command : String) (before after : List UInt8) :
    isGone (.routeCommandFailed command (Text.trim (Text.Utf8.decodeLossy
      (before ++ asciiBytes "No such process".toList ++ after)))) = true := by
  have head : ∀ c ∈ "No such process".toList.head?, Text.isBlank c = false := by
    rintro c ⟨⟩
    decide
  have last : ∀ c ∈ "No such process".toList.getLast?, Text.isBlank c = false := by
    rintro c ⟨⟩
    decide
  have visible : "No such process".toList ≠ [] := by decide
  obtain ⟨front, back, trimmed⟩ := Text.trimChars_append visible head last (lossyChars before)
    (lossyChars after)
  have reason : (Text.trim (Text.Utf8.decodeLossy
      (before ++ asciiBytes "No such process".toList ++ after))).toList =
        front ++ "No such process".toList ++ back := by
    refine String.toList_ofList.trans ?_
    rw [Text.Utf8.toList_decodeLossy,
      Text.Utf8.lossyChars_append_asciiBytes before (by decide) visible, trimmed]
  rw [isGone, reason]
  exact contains_append visible front back

/-! ## The router behind the program -/

variable {σ : Type} {p : Program σ} {routing : σ → Routing}

private theorem command_eq (c : RouteChange) : "-4" :: "route" :: arguments c = c.command := by
  cases c <;> rfl

theorem removes_iff (c : RouteChange) : removes c = true ↔ c.gateway? = none := by
  cases c <;> simp [removes, RouteChange.gateway?]

variable {args : List String} {s s' : σ} {out : CommandOutput} {c : RouteChange}

private theorem route_of_success (run : p.run ("-4" :: "route" :: args) s = (.ok out, s'))
    (exit : out.exitCode = 0) : route p args s = (.ok (Text.Utf8.decodeLossy out.stdout), s') := by
  simp only [route, run, exit, if_true]

private theorem route_of_failure (run : p.run ("-4" :: "route" :: args) s = (.ok out, s'))
    (exit : out.exitCode ≠ 0) : route p args s =
      (.error (.routeCommandFailed (line p.name args)
        (Text.trim (Text.Utf8.decodeLossy out.stderr))), s') := by
  simp only [route, run, exit, if_false]

private theorem change_of_success (run : p.run c.command s = (.ok out, s'))
    (exit : out.exitCode = 0) : change p c s = (.ok (), s') := by
  rw [← command_eq] at run
  rw [change, route_of_success run exit]

private theorem change_of_failure {e : HostError} (run : p.run c.command s = (.ok out, s'))
    (exit : out.exitCode ≠ 0)
    (told : e = .routeCommandFailed (line p.name (arguments c))
      (Text.trim (Text.Utf8.decodeLossy out.stderr))) :
    change p c s = (if removes c && isGone e then .ok () else .error e, s') := by
  rw [← command_eq] at run
  rw [change, route_of_failure run exit, ← told]
  by_cases gone : removes c && isGone e
  · simp only [gone, if_true]
  · simp only [gone, if_false, Bool.false_eq_true]

private theorem read_of_keepsRoutes (keeps : p.KeepsRoutes routing) (s : σ) :
    (read p s).1 = (routing s).readDefault ∧ routing (read p s).2 = routing s := by
  obtain ⟨out, s', run, exit, shows, kept⟩ := keeps.shows s
  have answer := route_of_success run exit
  cases hd : (routing s).default with
  | none =>
      rw [hd] at shows
      have nothing : gateway? (Text.Utf8.decodeLossy out.stdout) = none := by
        rw [shows, gateway?, Text.Utf8.toList_decodeLossy, lossyChars, Text.Utf8.units]
        rfl
      simp only [read, answer, nothing, Routing.readDefault, hd]
      exact ⟨trivial, kept⟩
  | some gateway =>
      rw [hd] at shows
      obtain ⟨further, stdout, breaks⟩ := shows
      have found := gateway?_printed gateway breaks
      rw [← stdout] at found
      simp only [read, answer, found, Routing.readDefault, hd]
      exact ⟨trivial, kept⟩

private theorem change_of_keepsRoutes (keeps : p.KeepsRoutes routing) (c : RouteChange) (s : σ) :
    HostError.told (change p c s).1 = HostError.told (Routing.router.change c (routing s)).1 ∧
      routing (change p c s).2 = (Routing.router.change c (routing s)).2 := by
  by_cases possible : (routing s).Possible c
  · obtain ⟨out, s', run, exit, changed⟩ := keeps.changes c s possible
    have made : Routing.router.change c (routing s) = (.ok (), (routing s).put c) :=
      if_pos possible
    rw [change_of_success run exit, made]
    exact ⟨rfl, changed⟩
  · obtain ⟨out, s', run, exit, kept, gone⟩ := keeps.refuses c s possible
    rw [change_of_failure run exit rfl]
    by_cases removal : c.gateway? = none
    · -- What was to be removed is gone already, which is no failure.
      obtain ⟨before, after, stderr⟩ := gone removal
      rw [stderr, isGone_printed, (removes_iff c).mpr removal, Routing.change_of_removal removal,
        Routing.put_of_missing removal possible]
      exact ⟨rfl, kept⟩
    · obtain ⟨gateway, adds⟩ := Option.ne_none_iff_exists'.mp removal
      have refused : Routing.router.change c (routing s) =
          (.error (.routeCommandFailed "" ""), routing s) :=
      Routing.change_of_impossible adds possible
      have added : removes c = false := by
        rw [← Bool.not_eq_true, removes_iff]
        exact removal
      rw [added, refused]
      exact ⟨rfl, kept⟩

theorem follows_routing (keeps : p.KeepsRoutes routing) :
    (router p).Follows Routing.router routing fun _ => True where
  read s _ := by
    obtain ⟨same, kept⟩ := read_of_keepsRoutes keeps s
    exact ⟨congrArg HostError.told same, kept, trivial⟩
  change c s _ := by
    obtain ⟨same, next⟩ := change_of_keepsRoutes keeps c s
    exact ⟨same, next, trivial⟩

/-! ## A program that keeps its routes in memory -/

def host? (destination : String) : Option Ipv4 :=
  match destination.toList.reverse with
  | '2' :: '3' :: '/' :: front => Ipv4.parseChars? front.reverse
  | _ => none

def change? : List String → Option RouteChange
  | ["-4", "route", "add", destination, "via", gateway] => do
    let gateway ← Ipv4.parse? gateway
    if destination = "default" then some (.setDefault gateway)
    else (host? destination).map (.setHost gateway)
  | ["-4", "route", "del", destination] =>
    if destination = "default" then some .clearDefault else (host? destination).map .clearHost
  | _ => none

def shown : Option Ipv4 → CommandOutput
  | none => {}
  | some gateway =>
    { stdout := asciiBytes "default via ".toList ++ asciiBytes gateway.text.toList ++
        asciiBytes " dev eth0\n".toList }

def refusal (c : RouteChange) : CommandOutput where
  stderr := asciiBytes "RTNETLINK answers: ".toList ++
    asciiBytes (if c.gateway?.isSome then "File exists" else "No such process").toList ++ [10]
  exitCode := 2

def keeper : Program RouteTable where
  name := "ip"
  run args t :=
    if args = ["-4", "route", "show", "default"] then (.ok (shown t.default), t)
    else
      match change? args with
      | none => (.ok { exitCode := 255 }, t)
      | some c =>
        if t.routing.Possible c then (.ok {}, (t.changed c).2) else (.ok (refusal c), t)

private theorem toList_prefixed (h : Ipv4) : (h.text ++ "/32").toList.reverse =
    '2' :: '3' :: '/' :: h.text.toList.reverse := by
  rw [String.toList_append, List.reverse_append]
  rfl

private theorem change?_command (c : RouteChange) : change? c.command = some c := by
  have host : ∀ h : Ipv4, host? (h.text ++ "/32") = some h := by
    intro h
    simp only [host?, toList_prefixed, List.reverse_reverse, h.parseChars?_text]
  have ne : ∀ h : Ipv4, h.text ++ "/32" ≠ "default" := by
    intro h eq
    have last := toList_prefixed h
    rw [eq] at last
    exact absurd (List.head_eq_of_cons_eq last) (by decide)
  cases c with
  | setDefault gateway => simp [RouteChange.command, change?, gateway.parse?_text]
  | clearDefault => rfl
  | setHost gateway h => simp [RouteChange.command, change?, gateway.parse?_text, host, ne]
  | clearHost h => simp [RouteChange.command, change?, host, ne]

theorem keeper_run (c : RouteChange) (t : RouteTable) :
    keeper.run c.command t =
      if t.routing.Possible c then (.ok {}, (t.changed c).2) else (.ok (refusal c), t) := by
  have other : c.command ≠ ["-4", "route", "show", "default"] := by
    cases c <;> simp [RouteChange.command]
  simp only [keeper, if_neg other, change?_command]

theorem keepsRoutes_keeper : keeper.KeepsRoutes RouteTable.routing where
  shows t := by
    refine ⟨shown t.default, t, by simp only [keeper, if_true], ?_, ?_, rfl⟩
    · cases t.default <;> rfl
    · cases hd : t.default with
      | none =>
          rw [RouteTable.routing, hd]
          rfl
      | some gateway =>
          rw [RouteTable.routing, hd]
          refine ⟨_, rfl, ?_⟩
          have further : lossyChars (asciiBytes " dev eth0\n".toList ++ []) =
              " dev eth0\n".toList ++ lossyChars [] :=
            Text.Utf8.lossyChars_asciiBytes_append (by decide) []
          rw [List.append_nil] at further
          rw [further]
          rintro c ⟨⟩
          decide
  changes c t possible := by
    obtain ⟨-, changed⟩ := RouteTable.routing_changed c t
    refine ⟨{}, (t.changed c).2, ?_, rfl, ?_⟩
    · rw [keeper_run, if_pos possible]
    · rw [changed]
      exact congrArg Prod.snd (if_pos possible)
  refuses c t impossible := by
    have exit : (refusal c).exitCode ≠ 0 := (by decide : (2 : UInt8) ≠ 0)
    refine ⟨refusal c, t, (keeper_run c t).trans (if_neg impossible), exit, rfl, fun removes => ?_⟩
    refine ⟨asciiBytes "RTNETLINK answers: ".toList, [10], ?_⟩
    rw [refusal, removes]
    rfl

/-! ## Agreement -/

/-- **A table behind a program that keeps routes is the table in memory.**  From the same routes,
the same calls succeed and fail on both, give the same gateways and lead to the same routes. -/
theorem calls_agree (keeps : p.KeepsRoutes routing) {s : σ} {t : RouteTable}
    (same : routing s = t.routing) (calls : List RouteCall) :
    ((router p).calls calls s).1.map HostError.told =
        (FaultyRoutes.router.calls calls { table := t }).1.map HostError.told ∧
      routing ((router p).calls calls s).2 =
        (FaultyRoutes.router.calls calls { table := t }).2.table.routing := by
  obtain ⟨commanded, last⟩ := (follows_routing keeps).calls calls (s := s) trivial
  obtain ⟨kept, last'⟩ :=
    FaultyRoutes.follows_routing.calls calls (s := { table := t }) ⟨rfl, rfl⟩
  rw [same] at commanded last
  exact ⟨commanded.trans kept.symm, last.trans last'.symm⟩

def household : RouteTable := ⟨some ⟨0xC0A80101⟩, []⟩

/-- Every kind of call, made and refused. -/
def errand : List RouteCall :=
  [.read, .change (.setHost ⟨0xC0A80101⟩ ⟨0x01020304⟩),
    .change (.setHost ⟨0xC0A80101⟩ ⟨0x01020304⟩),
    .change (.setDefault ⟨0x0A000001⟩), .change .clearDefault, .read, .change .clearDefault,
    .change (.setDefault ⟨0x0A000001⟩), .change (.clearHost ⟨0x01020304⟩),
    .change (.clearHost ⟨0x01020304⟩)]

theorem calls_agree_errand :
    ((router keeper).calls errand household).1.map HostError.told =
        [.ok (some ⟨0xC0A80101⟩), .ok none, .error (.routeCommandFailed "" ""),
          .error (.routeCommandFailed "" ""), .ok none, .error .noDefaultGateway, .ok none,
          .ok none, .ok none, .ok none] ∧
      ((router keeper).calls errand household).2.routing =
        RouteTable.routing ⟨some ⟨0x0A000001⟩, []⟩ := by
  obtain ⟨answers, last⟩ :=
    calls_agree keepsRoutes_keeper (rfl : household.routing = household.routing) errand
  exact ⟨answers.trans (by decide), last.trans (congrArg RouteTable.routing (by decide))⟩

end IpCommand

end TunnelClient
