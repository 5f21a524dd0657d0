import Flattening.Legacy.Numbering

/-! # Catalogue rows: block ids 79 to 104 -/

namespace Flattening.Legacy

def rowsD : List Row :=
  [⟨79, "minecraft:ice", [(0, "minecraft:ice", [])]⟩,
   ⟨80, "minecraft:snow", [(0, "minecraft:snow_block", [])]⟩,
   ⟨81, "minecraft:cactus",
     [(0, "minecraft:cactus", [("age", "0")]),
      (1, "minecraft:cactus", [("age", "1")]),
      (2, "minecraft:cactus", [("age", "2")]),
      (3, "minecraft:cactus", [("age", "3")]),
      (4, "minecraft:cactus", [("age", "4")]),
      (5, "minecraft:cactus", [("age", "5")]),
      (6, "minecraft:cactus", [("age", "6")]),
      (7, "minecraft:cactus", [("age", "7")]),
      (8, "minecraft:cactus", [("age", "8")]),
      (9, "minecraft:cactus", [("age", "9")]),
      (10, "minecraft:cactus", [("age", "10")]),
      (11, "minecraft:cactus", [("age", "11")]),
      (12, "minecraft:cactus", [("age", "12")]),
      (13, "minecraft:cactus", [("age", "13")]),
      (14, "minecraft:cactus", [("age", "14")]),
      (15, "minecraft:cactus", [("age", "15")])]⟩,
   ⟨82, "minecraft:clay", [(0, "minecraft:clay", [])]⟩,
   ⟨83, "minecraft:reeds",
     [(0, "minecraft:sugar_cane", [("age", "0")]),
      (1, "minecraft:sugar_cane", [("age", "1")]),
      (2, "minecraft:sugar_cane", [("age", "2")]),
      (3, "minecraft:sugar_cane", [("age", "3")]),
      (4, "minecraft:sugar_cane", [("age", "4")]),
      (5, "minecraft:sugar_cane", [("age", "5")]),
      (6, "minecraft:sugar_cane", [("age", "6")]),
      (7, "minecraft:sugar_cane", [("age", "7")]),
      (8, "minecraft:sugar_cane", [("age", "8")]),
      (9, "minecraft:sugar_cane", [("age", "9")]),
      (10, "minecraft:sugar_cane", [("age", "10")]),
      (11, "minecraft:sugar_cane", [("age", "11")]),
      (12, "minecraft:sugar_cane", [("age", "12")]),
      (13, "minecraft:sugar_cane", [("age", "13")]),
      (14, "minecraft:sugar_cane", [("age", "14")]),
      (15, "minecraft:sugar_cane", [("age", "15")])]⟩,
   ⟨84, "minecraft:jukebox",
     [(0, "minecraft:jukebox", [("has_record", "false")]),
      (1, "minecraft:jukebox", [("has_record", "true")])]⟩,
   ⟨85, "minecraft:fence",
     [(0, "minecraft:oak_fence",
        [("east", "false"), ("north", "false"), ("south", "false"), ("waterlogged", "false"),
         ("west", "false")])]⟩,
   ⟨86, "minecraft:pumpkin",
     [(0, "minecraft:carved_pumpkin", [("facing", "south")]),
      (1, "minecraft:carved_pumpkin", [("facing", "west")]),
      (2, "minecraft:carved_pumpkin", [("facing", "north")]),
      (3, "minecraft:carved_pumpkin", [("facing", "east")])]⟩,
   ⟨87, "minecraft:netherrack", [(0, "minecraft:netherrack", [])]⟩,
   ⟨88, "minecraft:soul_sand", [(0, "minecraft:soul_sand", [])]⟩,
   ⟨89, "minecraft:glowstone", [(0, "minecraft:glowstone", [])]⟩,
   ⟨90, "minecraft:portal",
     [(0, "minecraft:nether_portal", [("axis", "x")]),
      (1, "minecraft:nether_portal", [("axis", "x")]),
      (2, "minecraft:nether_portal", [("axis", "z")])]⟩,
   ⟨91, "minecraft:lit_pumpkin",
     [(0, "minecraft:jack_o_lantern", [("facing", "south")]),
      (1, "minecraft:jack_o_lantern", [("facing", "west")]),
      (2, "minecraft:jack_o_lantern", [("facing", "north")]),
      (3, "minecraft:jack_o_lantern", [("facing", "east")])]⟩,
   ⟨92, "minecraft:cake",
     [(0, "minecraft:cake", [("bites", "0")]),
      (1, "minecraft:cake", [("bites", "1")]),
      (2, "minecraft:cake", [("bites", "2")]),
      (3, "minecraft:cake", [("bites", "3")]),
      (4, "minecraft:cake", [("bites", "4")]),
      (5, "minecraft:cake", [("bites", "5")]),
      (6, "minecraft:cake", [("bites", "6")])]⟩,
   ⟨93, "minecraft:unpowered_repeater",
     [(0, "minecraft:repeater",
        [("delay", "1"), ("facing", "south"), ("locked", "false"), ("powered", "false")]),
      (1, "minecraft:repeater",
        [("delay", "1"), ("facing", "west"), ("locked", "false"), ("powered", "false")]),
      (2, "minecraft:repeater",
        [("delay", "1"), ("facing", "north"), ("locked", "false"), ("powered", "false")]),
      (3, "minecraft:repeater",
        [("delay", "1"), ("facing", "east"), ("locked", "false"), ("powered", "false")]),
      (4, "minecraft:repeater",
        [("delay", "2"), ("facing", "south"), ("locked", "false"), ("powered", "false")]),
      (5, "minecraft:repeater",
        [("delay", "2"), ("facing", "west"), ("locked", "false"), ("powered", "false")]),
      (6, "minecraft:repeater",
        [("delay", "2"), ("facing", "north"), ("locked", "false"), ("powered", "false")]),
      (7, "minecraft:repeater",
        [("delay", "2"), ("facing", "east"), ("locked", "false"), ("powered", "false")]),
      (8, "minecraft:repeater",
        [("delay", "3"), ("facing", "south"), ("locked", "false"), ("powered", "false")]),
      (9, "minecraft:repeater",
        [("delay", "3"), ("facing", "west"), ("locked", "false"), ("powered", "false")]),
      (10, "minecraft:repeater",
        [("delay", "3"), ("facing", "north"), ("locked", "false"), ("powered", "false")]),
      (11, "minecraft:repeater",
        [("delay", "3"), ("facing", "east"), ("locked", "false"), ("powered", "false")]),
      (12, "minecraft:repeater",
        [("delay", "4"), ("facing", "south"), ("locked", "false"), ("powered", "false")]),
      (13, "minecraft:repeater",
        [("delay", "4"), ("facing", "west"), ("locked", "false"), ("powered", "false")]),
      (14, "minecraft:repeater",
        [("delay", "4"), ("facing", "north"), ("locked", "false"), ("powered", "false")]),
      (15, "minecraft:repeater",
        [("delay", "4"), ("facing", "east"), ("locked", "false"), ("powered", "false")])]⟩,
   ⟨94, "minecraft:powered_repeater",
     [(0, "minecraft:repeater",
        [("delay", "1"), ("facing", "south"), ("locked", "false"), ("powered", "true")]),
      (1, "minecraft:repeater",
        [("delay", "1"), ("facing", "west"), ("locked", "false"), ("powered", "true")]),
      (2, "minecraft:repeater",
        [("delay", "1"), ("facing", "north"), ("locked", "false"), ("powered", "true")]),
      (3, "minecraft:repeater",
        [("delay", "1"), ("facing", "east"), ("locked", "false"), ("powered", "true")]),
      (4, "minecraft:repeater",
        [("delay", "2"), ("facing", "south"), ("locked", "false"), ("powered", "true")]),
      (5, "minecraft:repeater",
        [("delay", "2"), ("facing", "west"), ("locked", "false"), ("powered", "true")]),
      (6, "minecraft:repeater",
        [("delay", "2"), ("facing", "north"), ("locked", "false"), ("powered", "true")]),
      (7, "minecraft:repeater",
        [("delay", "2"), ("facing", "east"), ("locked", "false"), ("powered", "true")]),
      (8, "minecraft:repeater",
        [("delay", "3"), ("facing", "south"), ("locked", "false"), ("powered", "true")]),
      (9, "minecraft:repeater",
        [("delay", "3"), ("facing", "west"), ("locked", "false"), ("powered", "true")]),
      (10, "minecraft:repeater",
        [("delay", "3"), ("facing", "north"), ("locked", "false"), ("powered", "true")]),
      (11, "minecraft:repeater",
        [("delay", "3"), ("facing", "east"), ("locked", "false"), ("powered", "true")]),
      (12, "minecraft:repeater",
        [("delay", "4"), ("facing", "south"), ("locked", "false"), ("powered", "true")]),
      (13, "minecraft:repeater",
        [("delay", "4"), ("facing", "west"), ("locked", "false"), ("powered", "true")]),
      (14, "minecraft:repeater",
        [("delay", "4"), ("facing", "north"), ("locked", "false"), ("powered", "true")]),
      (15, "minecraft:repeater",
        [("delay", "4"), ("facing", "east"), ("locked", "false"), ("powered", "true")])]⟩,
   ⟨95, "minecraft:stained_glass",
     [(0, "minecraft:white_stained_glass", []),
      (1, "minecraft:orange_stained_glass", []),
      (2, "minecraft:magenta_stained_glass", []),
      (3, "minecraft:light_blue_stained_glass", []),
      (4, "minecraft:yellow_stained_glass", []),
      (5, "minecraft:lime_stained_glass", []),
      (6, "minecraft:pink_stained_glass", []),
      (7, "minecraft:gray_stained_glass", []),
      (8, "minecraft:light_gray_stained_glass", []),
      (9, "minecraft:cyan_stained_glass", []),
      (10, "minecraft:purple_stained_glass", []),
      (11, "minecraft:blue_stained_glass", []),
      (12, "minecraft:brown_stained_glass", []),
      (13, "minecraft:green_stained_glass", []),
      (14, "minecraft:red_stained_glass", []),
      (15, "minecraft:black_stained_glass", [])]⟩,
   ⟨96, "minecraft:trapdoor",
     [(0, "minecraft:oak_trapdoor",
        [("facing", "north"), ("half", "bottom"), ("open", "false"), ("powered", "false"),
         ("waterlogged", "false")]),
      (1, "minecraft:oak_trapdoor",
        [("facing", "south"), ("half", "bottom"), ("open", "false"), ("powered", "false"),
         ("waterlogged", "false")]),
      (2, "minecraft:oak_trapdoor",
        [("facing", "west"), ("half", "bottom"), ("open", "false"), ("powered", "false"),
         ("waterlogged", "false")]),
      (3, "minecraft:oak_trapdoor",
        [("facing", "east"), ("half", "bottom"), ("open", "false"), ("powered", "false"),
         ("waterlogged", "false")]),
      (4, "minecraft:oak_trapdoor",
        [("facing", "north"), ("half", "bottom"), ("open", "true"), ("powered", "false"),
         ("waterlogged", "false")]),
      (5, "minecraft:oak_trapdoor",
        [("facing", "south"), ("half", "bottom"), ("open", "true"), ("powered", "false"),
         ("waterlogged", "false")]),
      (6, "minecraft:oak_trapdoor",
        [("facing", "west"), ("half", "bottom"), ("open", "true"), ("powered", "false"),
         ("waterlogged", "false")]),
      (7, "minecraft:oak_trapdoor",
        [("facing", "east"), ("half", "bottom"), ("open", "true"), ("powered", "false"),
         ("waterlogged", "false")]),
      (8, "minecraft:oak_trapdoor",
        [("facing", "north"), ("half", "top"), ("open", "false"), ("powered", "false"),
         ("waterlogged", "false")]),
      (9, "minecraft:oak_trapdoor",
        [("facing", "south"), ("half", "top"), ("open", "false"), ("powered", "false"),
         ("waterlogged", "false")]),
      (10, "minecraft:oak_trapdoor",
        [("facing", "west"), ("half", "top"), ("open", "false"), ("powered", "false"),
         ("waterlogged", "false")]),
      (11, "minecraft:oak_trapdoor",
        [("facing", "east"), ("half", "top"), ("open", "false"), ("powered", "false"),
         ("waterlogged", "false")]),
      (12, "minecraft:oak_trapdoor",
        [("facing", "north"), ("half", "top"), ("open", "true"), ("powered", "false"),
         ("waterlogged", "false")]),
      (13, "minecraft:oak_trapdoor",
        [("facing", "south"), ("half", "top"), ("open", "true"), ("powered", "false"),
         ("waterlogged", "false")]),
      (14, "minecraft:oak_trapdoor",
        [("facing", "west"), ("half", "top"), ("open", "true"), ("powered", "false"),
         ("waterlogged", "false")]),
      (15, "minecraft:oak_trapdoor",
        [("facing", "east"), ("half", "top"), ("open", "true"), ("powered", "false"),
         ("waterlogged", "false")])]⟩,
   ⟨97, "minecraft:monster_egg",
     [(0, "minecraft:infested_stone", []),
      (1, "minecraft:infested_cobblestone", []),
      (2, "minecraft:infested_stone_bricks", []),
      (3, "minecraft:infested_mossy_stone_bricks", []),
      (4, "minecraft:infested_cracked_stone_bricks", []),
      (5, "minecraft:infested_chiseled_stone_bricks", [])]⟩,
   ⟨98, "minecraft:stonebrick",
     [(0, "minecraft:stone_bricks", []),
      (1, "minecraft:mossy_stone_bricks", []),
      (2, "minecraft:cracked_stone_bricks", []),
      (3, "minecraft:chiseled_stone_bricks", [])]⟩,
   ⟨99, "minecraft:brown_mushroom_block",
     [(0, "minecraft:brown_mushroom_block",
        [("down", "false"), ("east", "false"), ("north", "false"), ("south", "false"),
         ("up", "false"), ("west", "false")]),
      (1, "minecraft:brown_mushroom_block",
        [("down", "false"), ("east", "false"), ("north", "true"), ("south", "false"),
         ("up", "true"), ("west", "true")]),
      (2, "minecraft:brown_mushroom_block",
        [("down", "false"), ("east", "false"), ("north", "true"), ("south", "false"),
         ("up", "true"), ("west", "false")]),
      (3, "minecraft:brown_mushroom_block",
        [("down", "false"), ("east", "true"), ("north", "true"), ("south", "false"),
         ("up", "true"), ("west", "false")]),
      (4, "minecraft:brown_mushroom_block",
        [("down", "false"), ("east", "false"), ("north", "false"), ("south", "false"),
         ("up", "true"), ("west", "true")]),
      (5, "minecraft:brown_mushroom_block",
        [("down", "false"), ("east", "false"), ("north", "false"), ("south", "false"),
         ("up", "true"), ("west", "false")]),
      (6, "minecraft:brown_mushroom_block",
        [("down", "false"), ("east", "true"), ("north", "false"), ("south", "false"),
         ("up", "true"), ("west", "false")]),
      (7, "minecraft:brown_mushroom_block",
        [("down", "false"), ("east", "false"), ("north", "false"), ("south", "true"),
         ("up", "true"), ("west", "true")]),
      (8, "minecraft:brown_mushroom_block",
        [("down", "false"), ("east", "false"), ("north", "false"), ("south", "true"),
         ("up", "true"), ("west", "false")]),
      (9, "minecraft:brown_mushroom_block",
        [("down", "false"), ("east", "true"), ("north", "false"), ("south", "true"),
         ("up", "true"), ("west", "false")]),
      (10, "minecraft:mushroom_stem",
        [("down", "false"), ("east", "true"), ("north", "true"), ("south", "true"),
         ("up", "false"), ("west", "true")]),
      (14, "minecraft:brown_mushroom_block",
        [("down", "true"), ("east", "true"), ("north", "true"), ("south", "true"),
         ("up", "true"), ("west", "true")]),
      (15, "minecraft:mushroom_stem",
        [("down", "true"), ("east", "true"), ("north", "true"), ("south", "true"),
         ("up", "true"), ("west", "true")])]⟩,
   ⟨100, "minecraft:red_mushroom_block",
     [(0, "minecraft:red_mushroom_block",
        [("down", "false"), ("east", "false"), ("north", "false"), ("south", "false"),
         ("up", "false"), ("west", "false")]),
      (1, "minecraft:red_mushroom_block",
        [("down", "false"), ("east", "false"), ("north", "true"), ("south", "false"),
         ("up", "true"), ("west", "true")]),
      (2, "minecraft:red_mushroom_block",
        [("down", "false"), ("east", "false"), ("north", "true"), ("south", "false"),
         ("up", "true"), ("west", "false")]),
      (3, "minecraft:red_mushroom_block",
        [("down", "false"), ("east", "true"), ("north", "true"), ("south", "false"),
         ("up", "true"), ("west", "false")]),
      (4, "minecraft:red_mushroom_block",
        [("down", "false"), ("east", "false"), ("north", "false"), ("south", "false"),
         ("up", "true"), ("west", "true")]),
      (5, "minecraft:red_mushroom_block",
        [("down", "false"), ("east", "false"), ("north", "false"), ("south", "false"),
         ("up", "true"), ("west", "false")]),
      (6, "minecraft:red_mushroom_block",
        [("down", "false"), ("east", "true"), ("north", "false"), ("south", "false"),
         ("up", "true"), ("west", "false")]),
      (7, "minecraft:red_mushroom_block",
        [("down", "false"), ("east", "false"), ("north", "false"), ("south", "true"),
         ("up", "true"), ("west", "true")]),
      (8, "minecraft:red_mushroom_block",
        [("down", "false"), ("east", "false"), ("north", "false"), ("south", "true"),
         ("up", "true"), ("west", "false")]),
      (9, "minecraft:red_mushroom_block",
        [("down", "false"), ("east", "true"), ("north", "false"), ("south", "true"),
         ("up", "true"), ("west", "false")]),
      (10, "minecraft:mushroom_stem",
        [("down", "false"), ("east", "true"), ("north", "true"), ("south", "true"),
         ("up", "false"), ("west", "true")]),
      (14, "minecraft:red_mushroom_block",
        [("down", "true"), ("east", "true"), ("north", "true"), ("south", "true"),
         ("up", "true"), ("west", "true")]),
      (15, "minecraft:mushroom_stem",
        [("down", "true"), ("east", "true"), ("north", "true"), ("south", "true"),
         ("up", "true"), ("west", "true")])]⟩,
   ⟨101, "minecraft:iron_bars",
     [(0, "minecraft:iron_bars",
        [("east", "false"), ("north", "false"), ("south", "false"), ("waterlogged", "false"),
         ("west", "false")])]⟩,
   ⟨102, "minecraft:glass_pane",
     [(0, "minecraft:glass_pane",
        [("east", "false"), ("north", "false"), ("south", "false"), ("waterlogged", "false"),
         ("west", "false")])]⟩,
   ⟨103, "minecraft:melon_block", [(0, "minecraft:melon", [])]⟩,
   ⟨104, "minecraft:pumpkin_stem",
     [(0, "minecraft:pumpkin_stem", [("age", "0")]),
      (1, "minecraft:pumpkin_stem", [("age", "1")]),
      (2, "minecraft:pumpkin_stem", [("age", "2")]),
      (3, "minecraft:pumpkin_stem", [("age", "3")]),
      (4, "minecraft:pumpkin_stem", [("age", "4")]),
      (5, "minecraft:pumpkin_stem", [("age", "5")]),
      (6, "minecraft:pumpkin_stem", [("age", "6")]),
      (7, "minecraft:pumpkin_stem", [("age", "7")])]⟩]

end Flattening.Legacy
