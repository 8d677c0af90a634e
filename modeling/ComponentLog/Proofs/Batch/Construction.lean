import ComponentLog.Batch
import ComponentLog.Proofs.Datatype.Decoding

/-!
# Three ways to a batch

A batch is made from input, from values, or from a column that is already there. Storing values
never fails, so reading the input decides: conversion succeeds exactly where reading does, and
gives the column of the values that were read (`ComponentType.ofInput_eq_ok_iff`). The column has
the type that wrapping asks for, so the three ways agree (`ComponentBatch.constructions_agree`).
-/

namespace ComponentLog

open Columnar

/-! ## Conversion -/

namespace ComponentType

variable {c : ComponentType} {v : Value}

theorem convert_eq_error_iff {e : ConversionError} :
    c.convert v = .error e ↔ c.ofInput v = .error e := by
  unfold convert
  rw [bind_eq_error_iff]
  constructor
  · rintro (h | ⟨vs, -, h⟩)
    · exact h
    · obtain ⟨s, hs, -⟩ := c.datatype.exists_column vs
      cases hs.symm.trans h
  · exact .inl

theorem exists_column_of_ofInput {vs : List c.Carrier} (h : c.ofInput v = .ok vs) :
    ∃ s, c.convert v = .ok s ∧ IsColumnOf c.dataType c.ofSeries vs s := by
  obtain ⟨s, hs, hcolumn⟩ := c.datatype.exists_column vs
  exact ⟨s, bind_eq_ok_iff.2 ⟨vs, h, hs⟩, hcolumn⟩

/-- The values of a converted column are those that were read. -/
theorem ofInput_eq_ok_iff {vs : List c.Carrier} :
    c.ofInput v = .ok vs ↔
      ∃ s, c.convert v = .ok s ∧ IsColumnOf c.dataType c.ofSeries vs s := by
  refine ⟨exists_column_of_ofInput, ?_⟩
  rintro ⟨s, hs, hcolumn⟩
  obtain ⟨ws, hws, -⟩ := bind_eq_ok_iff.1 hs
  obtain ⟨s', hs', hcolumn'⟩ := exists_column_of_ofInput hws
  obtain rfl : s = s' := Except.ok.inj (hs.symm.trans hs')
  obtain rfl : vs = ws := Except.ok.inj (hcolumn.read_eq.symm.trans hcolumn'.read_eq)
  exact hws

theorem type_eq_of_convert {s : Series} (h : c.convert v = .ok s) : s.type = c.dataType := by
  obtain ⟨vs, hvs, -⟩ := bind_eq_ok_iff.1 h
  obtain ⟨s', hs', hcolumn⟩ := exists_column_of_ofInput hvs
  obtain rfl : s = s' := Except.ok.inj (h.symm.trans hs')
  exact hcolumn.type_eq

end ComponentType

/-! ## Batches -/

namespace ComponentBatch

variable {descriptor : ComponentDescriptor} {c : ComponentType} {v : Value}

theorem ofInput_eq_ok_iff {b : ComponentBatch} :
    ofInput descriptor c v = .ok b ↔
      ∃ s, c.convert v = .ok s ∧ b = ⟨descriptor, s, c.datatype.elementKind⟩ := by
  unfold ofInput
  rw [bind_eq_ok_iff]
  constructor
  · rintro ⟨s, hs, h⟩
    exact ⟨s, hs, (Except.ok.inj h).symm⟩
  · rintro ⟨s, hs, rfl⟩
    exact ⟨s, hs, rfl⟩

theorem bind_ofValues (descriptor : ComponentDescriptor) (c : ComponentType) (v : Value) :
    (c.ofInput v >>= ofValues descriptor c) = ofInput descriptor c v := by
  unfold ofInput ofValues ComponentType.convert
  rw [bind_assoc]

/-- A converted column passes the check of its type. -/
theorem bind_ofSeries (descriptor : ComponentDescriptor) (c : ComponentType) (v : Value) :
    (c.convert v >>= ofSeries descriptor c) = ofInput descriptor c v := by
  unfold ofInput
  cases hs : c.convert v with
  | error e => rfl
  | ok s =>
    show ofSeries descriptor c s = .ok ⟨descriptor, s, c.elementKind⟩
    unfold ofSeries
    rw [if_pos (ComponentType.type_eq_of_convert hs)]

/-- Reading the input decides: conversion fails exactly with the error of reading, and gives the
column of the values read. The batch of the input, the batch of the values read and the batch of
the converted column are one, and so are their failures. -/
theorem constructions_agree (c : ComponentType) (v : Value) :
    (∀ e, c.convert v = .error e ↔ c.ofInput v = .error e) ∧
    (∀ vs, c.ofInput v = .ok vs ↔
      ∃ s, c.convert v = .ok s ∧ IsColumnOf c.dataType c.ofSeries vs s) ∧
    ∀ descriptor,
      (∀ b, ofInput descriptor c v = .ok b ↔
        ∃ s, c.convert v = .ok s ∧ b = ⟨descriptor, s, c.datatype.elementKind⟩) ∧
      (c.ofInput v >>= ofValues descriptor c) = ofInput descriptor c v ∧
      (c.convert v >>= ofSeries descriptor c) = ofInput descriptor c v := by
  refine ⟨fun e => ComponentType.convert_eq_error_iff, fun vs => ComponentType.ofInput_eq_ok_iff,
    fun descriptor => ⟨fun b => ofInput_eq_ok_iff, ?_, ?_⟩⟩
  · exact bind_ofValues descriptor c v
  · exact bind_ofSeries descriptor c v

end ComponentBatch

end ComponentLog
