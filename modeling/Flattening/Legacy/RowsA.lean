import Flattening.Legacy.Numbering

/-! # Catalogue rows: block ids 0 to 26 -/

namespace Flattening.Legacy

def rowsA : List Row :=
  [⟨0, "minecraft:air", [(0, "minecraft:air", [])]⟩,
   ⟨1, "minecraft:stone",
     [(0, "minecraft:stone", []),
      (1, "minecraft:granite", []),
      (2, "minecraft:polished_granite", []),
      (3, "minecraft:diorite", []),
      (4, "minecraft:polished_diorite", []),
      (5, "minecraft:andesite", []),
      (6, "minecraft:polished_andesite", [])]⟩,
   ⟨2, "minecraft:grass", [(0, "minecraft:grass_block", [("snowy", "false")])]⟩,
   ⟨3, "minecraft:dirt",
     [(0, "minecraft:dirt", []),
      (1, "minecraft:coarse_dirt", []),
      (2, "minecraft:podzol", [("snowy", "false")])]⟩,
   ⟨4, "minecraft:cobblestone", [(0, "minecraft:cobblestone", [])]⟩,
   ⟨5, "minecraft:planks",
     [(0, "minecraft:oak_planks", []),
      (1, "minecraft:spruce_planks", []),
      (2, "minecraft:birch_planks", []),
      (3, "minecraft:jungle_planks", []),
      (4, "minecraft:acacia_planks", []),
      (5, "minecraft:dark_oak_planks", [])]⟩,
   ⟨6, "minecraft:sapling",
     [(0, "minecraft:oak_sapling", [("stage", "0")]),
      (1, "minecraft:spruce_sapling", [("stage", "0")]),
      (2, "minecraft:birch_sapling", [("stage", "0")]),
      (3, "minecraft:jungle_sapling", [("stage", "0")]),
      (4, "minecraft:acacia_sapling", [("stage", "0")]),
      (5, "minecraft:dark_oak_sapling", [("stage", "0")]),
      (8, "minecraft:oak_sapling", [("stage", "1")]),
      (9, "minecraft:spruce_sapling", [("stage", "1")]),
      (10, "minecraft:birch_sapling", [("stage", "1")]),
      (11, "minecraft:jungle_sapling", [("stage", "1")]),
      (12, "minecraft:acacia_sapling", [("stage", "1")]),
      (13, "minecraft:dark_oak_sapling", [("stage", "1")])]⟩,
   ⟨7, "minecraft:bedrock", [(0, "minecraft:bedrock", [])]⟩,
   ⟨8, "minecraft:flowing_water",
     [(0, "minecraft:water", [("level", "0")]),
      (1, "minecraft:water", [("level", "1")]),
      (2, "minecraft:water", [("level", "2")]),
      (3, "minecraft:water", [("level", "3")]),
      (4, "minecraft:water", [("level", "4")]),
      (5, "minecraft:water", [("level", "5")]),
      (6, "minecraft:water", [("level", "6")]),
      (7, "minecraft:water", [("level", "7")]),
      (8, "minecraft:water", [("level", "8")]),
      (9, "minecraft:water", [("level", "9")]),
      (10, "minecraft:water", [("level", "10")]),
      (11, "minecraft:water", [("level", "11")]),
      (12, "minecraft:water", [("level", "12")]),
      (13, "minecraft:water", [("level", "13")]),
      (14, "minecraft:water", [("level", "14")]),
      (15, "minecraft:water", [("level", "15")])]⟩,
   ⟨9, "minecraft:water",
     [(0, "minecraft:water", [("level", "0")]),
      (1, "minecraft:water", [("level", "1")]),
      (2, "minecraft:water", [("level", "2")]),
      (3, "minecraft:water", [("level", "3")]),
      (4, "minecraft:water", [("level", "4")]),
      (5, "minecraft:water", [("level", "5")]),
      (6, "minecraft:water", [("level", "6")]),
      (7, "minecraft:water", [("level", "7")]),
      (8, "minecraft:water", [("level", "8")]),
      (9, "minecraft:water", [("level", "9")]),
      (10, "minecraft:water", [("level", "10")]),
      (11, "minecraft:water", [("level", "11")]),
      (12, "minecraft:water", [("level", "12")]),
      (13, "minecraft:water", [("level", "13")]),
      (14, "minecraft:water", [("level", "14")]),
      (15, "minecraft:water", [("level", "15")])]⟩,
   ⟨10, "minecraft:flowing_lava",
     [(0, "minecraft:lava", [("level", "0")]),
      (1, "minecraft:lava", [("level", "1")]),
      (2, "minecraft:lava", [("level", "2")]),
      (3, "minecraft:lava", [("level", "3")]),
      (4, "minecraft:lava", [("level", "4")]),
      (5, "minecraft:lava", [("level", "5")]),
      (6, "minecraft:lava", [("level", "6")]),
      (7, "minecraft:lava", [("level", "7")]),
      (8, "minecraft:lava", [("level", "8")]),
      (9, "minecraft:lava", [("level", "9")]),
      (10, "minecraft:lava", [("level", "10")]),
      (11, "minecraft:lava", [("level", "11")]),
      (12, "minecraft:lava", [("level", "12")]),
      (13, "minecraft:lava", [("level", "13")]),
      (14, "minecraft:lava", [("level", "14")]),
      (15, "minecraft:lava", [("level", "15")])]⟩,
   ⟨11, "minecraft:lava",
     [(0, "minecraft:lava", [("level", "0")]),
      (1, "minecraft:lava", [("level", "1")]),
      (2, "minecraft:lava", [("level", "2")]),
      (3, "minecraft:lava", [("level", "3")]),
      (4, "minecraft:lava", [("level", "4")]),
      (5, "minecraft:lava", [("level", "5")]),
      (6, "minecraft:lava", [("level", "6")]),
      (7, "minecraft:lava", [("level", "7")]),
      (8, "minecraft:lava", [("level", "8")]),
      (9, "minecraft:lava", [("level", "9")]),
      (10, "minecraft:lava", [("level", "10")]),
      (11, "minecraft:lava", [("level", "11")]),
      (12, "minecraft:lava", [("level", "12")]),
      (13, "minecraft:lava", [("level", "13")]),
      (14, "minecraft:lava", [("level", "14")]),
      (15, "minecraft:lava", [("level", "15")])]⟩,
   ⟨12, "minecraft:sand", [(0, "minecraft:sand", []), (1, "minecraft:red_sand", [])]⟩,
   ⟨13, "minecraft:gravel", [(0, "minecraft:gravel", [])]⟩,
   ⟨14, "minecraft:gold_ore", [(0, "minecraft:gold_ore", [])]⟩,
   ⟨15, "minecraft:iron_ore", [(0, "minecraft:iron_ore", [])]⟩,
   ⟨16, "minecraft:coal_ore", [(0, "minecraft:coal_ore", [])]⟩,
   ⟨17, "minecraft:log",
     [(0, "minecraft:oak_log", [("axis", "y")]),
      (1, "minecraft:spruce_log", [("axis", "y")]),
      (2, "minecraft:birch_log", [("axis", "y")]),
      (3, "minecraft:jungle_log", [("axis", "y")]),
      (4, "minecraft:oak_log", [("axis", "x")]),
      (5, "minecraft:spruce_log", [("axis", "x")]),
      (6, "minecraft:birch_log", [("axis", "x")]),
      (7, "minecraft:jungle_log", [("axis", "x")]),
      (8, "minecraft:oak_log", [("axis", "z")]),
      (9, "minecraft:spruce_log", [("axis", "z")]),
      (10, "minecraft:birch_log", [("axis", "z")]),
      (11, "minecraft:jungle_log", [("axis", "z")]),
      (12, "minecraft:oak_wood", [("axis", "y")]),
      (13, "minecraft:spruce_wood", [("axis", "y")]),
      (14, "minecraft:birch_wood", [("axis", "y")]),
      (15, "minecraft:jungle_wood", [("axis", "y")])]⟩,
   ⟨18, "minecraft:leaves",
     [(0, "minecraft:oak_leaves", [("distance", "7"), ("persistent", "false")]),
      (1, "minecraft:spruce_leaves", [("distance", "7"), ("persistent", "false")]),
      (2, "minecraft:birch_leaves", [("distance", "7"), ("persistent", "false")]),
      (3, "minecraft:jungle_leaves", [("distance", "7"), ("persistent", "false")]),
      (4, "minecraft:oak_leaves", [("distance", "7"), ("persistent", "true")]),
      (5, "minecraft:spruce_leaves", [("distance", "7"), ("persistent", "true")]),
      (6, "minecraft:birch_leaves", [("distance", "7"), ("persistent", "true")]),
      (7, "minecraft:jungle_leaves", [("distance", "7"), ("persistent", "true")]),
      (8, "minecraft:oak_leaves", [("distance", "7"), ("persistent", "false")]),
      (9, "minecraft:spruce_leaves", [("distance", "7"), ("persistent", "false")]),
      (10, "minecraft:birch_leaves", [("distance", "7"), ("persistent", "false")]),
      (11, "minecraft:jungle_leaves", [("distance", "7"), ("persistent", "false")]),
      (12, "minecraft:oak_leaves", [("distance", "7"), ("persistent", "true")]),
      (13, "minecraft:spruce_leaves", [("distance", "7"), ("persistent", "true")]),
      (14, "minecraft:birch_leaves", [("distance", "7"), ("persistent", "true")]),
      (15, "minecraft:jungle_leaves", [("distance", "7"), ("persistent", "true")])]⟩,
   ⟨19, "minecraft:sponge", [(0, "minecraft:sponge", []), (1, "minecraft:wet_sponge", [])]⟩,
   ⟨20, "minecraft:glass", [(0, "minecraft:glass", [])]⟩,
   ⟨21, "minecraft:lapis_ore", [(0, "minecraft:lapis_ore", [])]⟩,
   ⟨22, "minecraft:lapis_block", [(0, "minecraft:lapis_block", [])]⟩,
   ⟨23, "minecraft:dispenser",
     [(0, "minecraft:dispenser", [("facing", "down"), ("triggered", "false")]),
      (1, "minecraft:dispenser", [("facing", "up"), ("triggered", "false")]),
      (2, "minecraft:dispenser", [("facing", "north"), ("triggered", "false")]),
      (3, "minecraft:dispenser", [("facing", "south"), ("triggered", "false")]),
      (4, "minecraft:dispenser", [("facing", "west"), ("triggered", "false")]),
      (5, "minecraft:dispenser", [("facing", "east"), ("triggered", "false")]),
      (8, "minecraft:dispenser", [("facing", "down"), ("triggered", "true")]),
      (9, "minecraft:dispenser", [("facing", "up"), ("triggered", "true")]),
      (10, "minecraft:dispenser", [("facing", "north"), ("triggered", "true")]),
      (11, "minecraft:dispenser", [("facing", "south"), ("triggered", "true")]),
      (12, "minecraft:dispenser", [("facing", "west"), ("triggered", "true")]),
      (13, "minecraft:dispenser", [("facing", "east"), ("triggered", "true")])]⟩,
   ⟨24, "minecraft:sandstone",
     [(0, "minecraft:sandstone", []),
      (1, "minecraft:chiseled_sandstone", []),
      (2, "minecraft:cut_sandstone", [])]⟩,
   ⟨25, "minecraft:noteblock",
     [(0, "minecraft:note_block",
        [("instrument", "harp"), ("note", "0"), ("powered", "false")])]⟩,
   ⟨26, "minecraft:bed",
     [(0, "minecraft:red_bed", [("facing", "south"), ("occupied", "false"), ("part", "foot")]),
      (1, "minecraft:red_bed", [("facing", "west"), ("occupied", "false"), ("part", "foot")]),
      (2, "minecraft:red_bed", [("facing", "north"), ("occupied", "false"), ("part", "foot")]),
      (3, "minecraft:red_bed", [("facing", "east"), ("occupied", "false"), ("part", "foot")]),
      (4, "minecraft:red_bed", [("facing", "south"), ("occupied", "true"), ("part", "foot")]),
      (5, "minecraft:red_bed", [("facing", "west"), ("occupied", "true"), ("part", "foot")]),
      (6, "minecraft:red_bed", [("facing", "north"), ("occupied", "true"), ("part", "foot")]),
      (7, "minecraft:red_bed", [("facing", "east"), ("occupied", "true"), ("part", "foot")]),
      (8, "minecraft:red_bed", [("facing", "south"), ("occupied", "false"), ("part", "head")]),
      (9, "minecraft:red_bed", [("facing", "west"), ("occupied", "false"), ("part", "head")]),
      (10, "minecraft:red_bed", [("facing", "north"), ("occupied", "false"), ("part", "head")]),
      (11, "minecraft:red_bed", [("facing", "east"), ("occupied", "false"), ("part", "head")]),
      (12, "minecraft:red_bed", [("facing", "south"), ("occupied", "true"), ("part", "head")]),
      (13, "minecraft:red_bed", [("facing", "west"), ("occupied", "true"), ("part", "head")]),
      (14, "minecraft:red_bed", [("facing", "north"), ("occupied", "true"), ("part", "head")]),
      (15, "minecraft:red_bed", [("facing", "east"), ("occupied", "true"), ("part", "head")])]⟩]

end Flattening.Legacy
