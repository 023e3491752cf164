import Embedding.Proofs.OfNative
import Embedding.Proofs.ToNative

namespace Embedding

namespace Guest

theorem Run.Serves.exists_gives {α : Type} {I : List Lease → Machine → Prop} {post : α → List Lease → Machine → Prop}
    {x : Run (Except Error α)} {needs : List Need} {grants : List Lease} (h : x.Serves I post needs grants) :
    ∃ log a m gs, x.Gives log (.ok a) m ∧ post a gs m := by
  induction x generalizing needs grants with
  | done r m =>
    obtain ⟨-, a, rfl, ha⟩ := h
    exact ⟨[], a, m, grants, .done, ha⟩
  | threw v m | stopped why m | call begun args m resume => exact h.elim
  | ask q m resume ih =>
    obtain ⟨r, s, hr⟩ : ∃ r s, q.settle m.objects.size needs grants r = .ok s := by
      cases q with
      | isReleased => exact ⟨false, _, rfl⟩
      | register f => exact ⟨.ok ⟨0, 0⟩, _, rfl⟩
      | unmapped => exact ⟨.null, _, rfl⟩
      | report n => exact ⟨(), _, rfl⟩
      | _ => exact h.1.elim
    have hnext := h.2.2 r
    rw [hr] at hnext
    obtain ⟨log, a, m', gs, hgives, ha⟩ := ih r hnext
    exact ⟨_, a, m', gs, .ask hgives, ha⟩

theorem Shows.toNative_ends {objects : Array Object} {lo n k : Nat} {v : Value} {t : Native} {m : Machine}
    (hv : Shows objects lo k v t) (hk : k ≤ Bridge.nestingLimit) (hm : m.Unaltered)
    (hkeeps : Keeps (fun _ => True) objects m.objects) (hstack : m.depth + k ≤ m.depthLimit) :
    (Bridge.toNative v).Ends (Engine.ofLevel (n + 4)) m fun t' m' => t' = t ∧ m.Follows (fun _ => True) m' := by
  unfold Bridge.toNative
  apply Bridge.Ends.holding
  have hrooted : (m.rooted [v]).Unaltered := ⟨hm.standing, hm.functions⟩
  apply (hv.converts (m.rooted [v]) _ hrooted hkeeps hk hstack).imp
  rintro _ m' ⟨rfl, hfollows⟩
  exact ⟨rfl, hfollows.keeps, hfollows.size_le, hfollows.depth, hfollows.depthLimit⟩

theorem shows_of_gives_ofNative {m m' : Machine} {n k : Nat} {t : Native} {log : List Exchange} {v : Value}
    (hm : m.Unaltered) (hdepth : m.depth < m.depthLimit) (hroom : m.HasRoom t.footprint) (hfits : t.FitsWithin k)
    (hgives : ((Bridge.ofNative t).run (Engine.ofLevel (n + 4)) m).Gives log (.ok v) m') :
    Shows m'.objects m.objects.size k v t.norm := by
  obtain ⟨_, new, -, hmade⟩ := (makes_of_fitsWithin hm hdepth hfits m [] ⟨.refl, nofun⟩ hroom).gives hgives
  exact hmade.forms.shows hfits

/-- Where all that a host value needs is granted, it gets a guest form. The machine can go on from there. -/
theorem exists_gives_ofNative {m : Machine} {n k : Nat} {t : Native} (hm : m.Unaltered)
    (hdepth : m.depth < m.depthLimit) (hroom : m.HasRoom t.footprint) (hfits : t.FitsWithin k) :
    ∃ log v m', ((Bridge.ofNative t).run (Engine.ofLevel (n + 4)) m).Gives log (.ok v) m' ∧
      m'.Unaltered ∧ m'.depth = m.depth ∧ m'.depthLimit = m.depthLimit := by
  obtain ⟨log, v, m', _, hgives, new, -, hmade⟩ :=
    (makes_of_fitsWithin (n := n) hm hdepth hfits m [] ⟨.refl, nofun⟩ hroom).exists_gives
  have hsame := hmade.underway.same
  exact ⟨log, v, m', hgives, hmade.underway.unaltered hm, by rw [hsame], by rw [hsame]⟩

end Guest

section RoundTrip

open Guest

variable {m m' later : Machine} {n n' k : Nat} {t : Native} {log : List Exchange} {v : Value}

/-- A host value that gets a guest form is in its normal form when it comes back, however much has been made since. -/
theorem roundTrip_norm (hm : m.Unaltered) (hdepth : m.depth < m.depthLimit) (hroom : m.HasRoom t.footprint)
    (hfits : t.FitsWithin k) (hk : k ≤ Bridge.nestingLimit)
    (hgives : ((Bridge.ofNative t).run (Engine.ofLevel (n + 4)) m).Gives log (.ok v) m')
    (hlater : later.Unaltered) (hkeeps : Keeps (fun _ => True) m'.objects later.objects)
    (hstack : later.depth + k ≤ later.depthLimit) :
    (Bridge.toNative v).Ends (Engine.ofLevel (n' + 4)) later fun t' _ => t' = t.norm :=
  ((shows_of_gives_ofNative hm hdepth hroom hfits hgives).toNative_ends hk hlater hkeeps hstack).imp
    fun _ _ hback => hback.1

/-- A machine without a limit of memory. -/
def Guest.Machine.unlimited (m : Machine) : Machine := { m with depthLimit := callDepthLimit, memoryLimit := none }

theorem Guest.Machine.Unaltered.unlimited {m : Machine} (h : m.Unaltered) : m.unlimited.Unaltered :=
  ⟨h.standing, h.functions⟩

theorem Guest.Realm.depth_layOut (sites : List Site) : (layOut sites).depth = 0 := rfl

theorem Guest.Realm.depth_unlimited {k : Nat} (hk : k ≤ callDepthLimit) :
    initial.unlimited.depth + k ≤ initial.unlimited.depthLimit := by
  have hdepth : initial.unlimited.depth = 0 := depth_layOut sites
  rw [hdepth, Nat.zero_add]
  exact hk

theorem Guest.Machine.HasRoom.unlimited (m : Machine) (bytes : Nat) : m.unlimited.HasRoom bytes := nofun

/-- An array of a function, a date and a float comes back without the function, in milliseconds, as an integer. -/
theorem roundTrip_norm_array : ∃ log v m',
    ((Bridge.ofNative (.array [.function ⟨0⟩, .date ⟨-1, 999999999⟩, .float (Double.ofInt 3)])).run (Engine.ofLevel 4)
      Realm.initial.unlimited).Gives log (.ok v) m' ∧
    (Bridge.toNative v).Ends (Engine.ofLevel 4) m' fun t' _ =>
      t' = .array [.unmapped, .date ⟨-1, 999000000⟩, .int 3] := by
  have hfits : (Native.array [.function ⟨0⟩, .date ⟨-1, 999999999⟩, .float (Double.ofInt 3)]).FitsWithin 2 := by
    refine ⟨by decide, fun x hx => ?_⟩
    simp only [List.mem_cons, List.not_mem_nil, or_false] at hx
    rcases hx with rfl | rfl | rfl
    · trivial
    · exact ⟨by decide, by decide, by decide⟩
    · trivial
  have hnorm : (Native.array [.function ⟨0⟩, .date ⟨-1, 999999999⟩, .float (Double.ofInt 3)]).norm =
      .array [.unmapped, .date ⟨-1, 999000000⟩, .int 3] := by
    have hfloat : Native.normFloat (Double.ofInt 3) = .int 3 := by rfl
    simp only [Native.norm, Native.normItems, hfloat]
  have hdepth₀ := Realm.depth_unlimited (show 1 ≤ callDepthLimit by decide)
  obtain ⟨log, v, m', hgives, hm', hdepth, hlimit⟩ :=
    exists_gives_ofNative (n := 0) Machine.unaltered_initial.unlimited hdepth₀ (.unlimited _ _) hfits
  refine ⟨log, v, m', hgives, ?_⟩
  rw [← hnorm]
  exact roundTrip_norm Machine.unaltered_initial.unlimited hdepth₀ (.unlimited _ _) hfits (by decide) hgives hm' .refl
    (by rw [hdepth, hlimit]; exact Realm.depth_unlimited (by decide))

/-- A set makes zero of negative zero, which by itself comes back as it was. -/
theorem roundTrip_set_negativeZero : ∃ log v m',
    ((Bridge.ofNative (.set [.float .negativeZero])).run (Engine.ofLevel 4) Realm.initial.unlimited).Gives log (.ok v) m' ∧
    (Bridge.toNative v).Ends (Engine.ofLevel 4) m' (fun t' _ => t' = .set [.int 0]) ∧
    Native.set [.int 0] ≠ .set [(Native.float .negativeZero).norm] := by
  have hfits : (Native.set [.float .negativeZero]).FitsWithin 2 :=
    ⟨by decide, fun x hx => by rw [List.mem_singleton.mp hx]; trivial⟩
  have hnorm : (Native.set [.float .negativeZero]).norm = .set [.int 0] := by
    have hzero : Double.negativeZero.isNegativeZero = true := by decide
    simp [Native.norm, Native.normElements, Native.isNegativeZero, hzero]
  have hdepth₀ := Realm.depth_unlimited (show 1 ≤ callDepthLimit by decide)
  obtain ⟨log, v, m', hgives, hm', hdepth, hlimit⟩ :=
    exists_gives_ofNative (n := 0) Machine.unaltered_initial.unlimited hdepth₀ (.unlimited _ _) hfits
  have hfloat : (Native.float .negativeZero).norm = .float .negativeZero := by
    have hint : Double.negativeZero.toInt? = some 0 := by decide +kernel
    rw [Native.norm, Native.normFloat, hint]
    rfl
  have hshows := shows_of_gives_ofNative Machine.unaltered_initial.unlimited hdepth₀ (.unlimited _ _) hfits hgives
  rw [hnorm] at hshows
  refine ⟨log, v, m', hgives, ?_, fun hsame => ?_⟩
  · exact (hshows.toNative_ends (by decide) hm' .refl
      (by rw [hdepth, hlimit]; exact Realm.depth_unlimited (by decide))).imp fun _ _ hback => hback.1
  · rw [hfloat] at hsame
    cases hsame

end RoundTrip

end Embedding
