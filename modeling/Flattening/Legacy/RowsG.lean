import Flattening.Legacy.Numbering

/-! # Catalogue rows: block ids 152 to 175 -/

namespace Flattening.Legacy

def rowsG : List Row :=
  [⟨152, "minecraft:redstone_block", [(0, "minecraft:redstone_block", [])]⟩,
   ⟨153, "minecraft:quartz_ore", [(0, "minecraft:nether_quartz_ore", [])]⟩,
   ⟨154, "minecraft:hopper",
     [(0, "minecraft:hopper", [("enabled", "true"), ("facing", "down")]),
      (2, "minecraft:hopper", [("enabled", "true"), ("facing", "north")]),
      (3, "minecraft:hopper", [("enabled", "true"), ("facing", "south")]),
      (4, "minecraft:hopper", [("enabled", "true"), ("facing", "west")]),
      (5, "minecraft:hopper", [("enabled", "true"), ("facing", "east")]),
      (8, "minecraft:hopper", [("enabled", "false"), ("facing", "down")]),
      (10, "minecraft:hopper", [("enabled", "false"), ("facing", "north")]),
      (11, "minecraft:hopper", [("enabled", "false"), ("facing", "south")]),
      (12, "minecraft:hopper", [("enabled", "false"), ("facing", "west")]),
      (13, "minecraft:hopper", [("enabled", "false"), ("facing", "east")])]⟩,
   ⟨155, "minecraft:quartz_block",
     [(0, "minecraft:quartz_block", []),
      (1, "minecraft:chiseled_quartz_block", []),
      (2, "minecraft:quartz_pillar", [("axis", "y")]),
      (3, "minecraft:quartz_pillar", [("axis", "x")]),
      (4, "minecraft:quartz_pillar", [("axis", "z")])]⟩,
   ⟨156, "minecraft:quartz_stairs",
     [(0, "minecraft:quartz_stairs",
        [("facing", "east"), ("half", "bottom"), ("shape", "straight"),
         ("waterlogged", "false")]),
      (1, "minecraft:quartz_stairs",
        [("facing", "west"), ("half", "bottom"), ("shape", "straight"),
         ("waterlogged", "false")]),
      (2, "minecraft:quartz_stairs",
        [("facing", "south"), ("half", "bottom"), ("shape", "straight"),
         ("waterlogged", "false")]),
      (3, "minecraft:quartz_stairs",
        [("facing", "north"), ("half", "bottom"), ("shape", "straight"),
         ("waterlogged", "false")]),
      (4, "minecraft:quartz_stairs",
        [("facing", "east"), ("half", "top"), ("shape", "straight"), ("waterlogged", "false")]),
      (5, "minecraft:quartz_stairs",
        [("facing", "west"), ("half", "top"), ("shape", "straight"), ("waterlogged", "false")]),
      (6, "minecraft:quartz_stairs",
        [("facing", "south"), ("half", "top"), ("shape", "straight"), ("waterlogged", "false")]),
      (7, "minecraft:quartz_stairs",
        [("facing", "north"), ("half", "top"), ("shape", "straight"),
         ("waterlogged", "false")])]⟩,
   ⟨157, "minecraft:activator_rail",
     [(0, "minecraft:activator_rail", [("powered", "false"), ("shape", "north_south")]),
      (1, "minecraft:activator_rail", [("powered", "false"), ("shape", "east_west")]),
      (2, "minecraft:activator_rail", [("powered", "false"), ("shape", "ascending_east")]),
      (3, "minecraft:activator_rail", [("powered", "false"), ("shape", "ascending_west")]),
      (4, "minecraft:activator_rail", [("powered", "false"), ("shape", "ascending_north")]),
      (5, "minecraft:activator_rail", [("powered", "false"), ("shape", "ascending_south")]),
      (8, "minecraft:activator_rail", [("powered", "true"), ("shape", "north_south")]),
      (9, "minecraft:activator_rail", [("powered", "true"), ("shape", "east_west")]),
      (10, "minecraft:activator_rail", [("powered", "true"), ("shape", "ascending_east")]),
      (11, "minecraft:activator_rail", [("powered", "true"), ("shape", "ascending_west")]),
      (12, "minecraft:activator_rail", [("powered", "true"), ("shape", "ascending_north")]),
      (13, "minecraft:activator_rail", [("powered", "true"), ("shape", "ascending_south")])]⟩,
   ⟨158, "minecraft:dropper",
     [(0, "minecraft:dropper", [("facing", "down"), ("triggered", "false")]),
      (1, "minecraft:dropper", [("facing", "up"), ("triggered", "false")]),
      (2, "minecraft:dropper", [("facing", "north"), ("triggered", "false")]),
      (3, "minecraft:dropper", [("facing", "south"), ("triggered", "false")]),
      (4, "minecraft:dropper", [("facing", "west"), ("triggered", "false")]),
      (5, "minecraft:dropper", [("facing", "east"), ("triggered", "false")]),
      (8, "minecraft:dropper", [("facing", "down"), ("triggered", "true")]),
      (9, "minecraft:dropper", [("facing", "up"), ("triggered", "true")]),
      (10, "minecraft:dropper", [("facing", "north"), ("triggered", "true")]),
      (11, "minecraft:dropper", [("facing", "south"), ("triggered", "true")]),
      (12, "minecraft:dropper", [("facing", "west"), ("triggered", "true")]),
      (13, "minecraft:dropper", [("facing", "east"), ("triggered", "true")])]⟩,
   ⟨159, "minecraft:stained_hardened_clay",
     [(0, "minecraft:white_terracotta", []),
      (1, "minecraft:orange_terracotta", []),
      (2, "minecraft:magenta_terracotta", []),
      (3, "minecraft:light_blue_terracotta", []),
      (4, "minecraft:yellow_terracotta", []),
      (5, "minecraft:lime_terracotta", []),
      (6, "minecraft:pink_terracotta", []),
      (7, "minecraft:gray_terracotta", []),
      (8, "minecraft:light_gray_terracotta", []),
      (9, "minecraft:cyan_terracotta", []),
      (10, "minecraft:purple_terracotta", []),
      (11, "minecraft:blue_terracotta", []),
      (12, "minecraft:brown_terracotta", []),
      (13, "minecraft:green_terracotta", []),
      (14, "minecraft:red_terracotta", []),
      (15, "minecraft:black_terracotta", [])]⟩,
   ⟨160, "minecraft:stained_glass_pane",
     [(0, "minecraft:white_stained_glass_pane",
        [("east", "false"), ("north", "false"), ("south", "false"), ("waterlogged", "false"),
         ("west", "false")]),
      (1, "minecraft:orange_stained_glass_pane",
        [("east", "false"), ("north", "false"), ("south", "false"), ("waterlogged", "false"),
         ("west", "false")]),
      (2, "minecraft:magenta_stained_glass_pane",
        [("east", "false"), ("north", "false"), ("south", "false"), ("waterlogged", "false"),
         ("west", "false")]),
      (3, "minecraft:light_blue_stained_glass_pane",
        [("east", "false"), ("north", "false"), ("south", "false"), ("waterlogged", "false"),
         ("west", "false")]),
      (4, "minecraft:yellow_stained_glass_pane",
        [("east", "false"), ("north", "false"), ("south", "false"), ("waterlogged", "false"),
         ("west", "false")]),
      (5, "minecraft:lime_stained_glass_pane",
        [("east", "false"), ("north", "false"), ("south", "false"), ("waterlogged", "false"),
         ("west", "false")]),
      (6, "minecraft:pink_stained_glass_pane",
        [("east", "false"), ("north", "false"), ("south", "false"), ("waterlogged", "false"),
         ("west", "false")]),
      (7, "minecraft:gray_stained_glass_pane",
        [("east", "false"), ("north", "false"), ("south", "false"), ("waterlogged", "false"),
         ("west", "false")]),
      (8, "minecraft:light_gray_stained_glass_pane",
        [("east", "false"), ("north", "false"), ("south", "false"), ("waterlogged", "false"),
         ("west", "false")]),
      (9, "minecraft:cyan_stained_glass_pane",
        [("east", "false"), ("north", "false"), ("south", "false"), ("waterlogged", "false"),
         ("west", "false")]),
      (10, "minecraft:purple_stained_glass_pane",
        [("east", "false"), ("north", "false"), ("south", "false"), ("waterlogged", "false"),
         ("west", "false")]),
      (11, "minecraft:blue_stained_glass_pane",
        [("east", "false"), ("north", "false"), ("south", "false"), ("waterlogged", "false"),
         ("west", "false")]),
      (12, "minecraft:brown_stained_glass_pane",
        [("east", "false"), ("north", "false"), ("south", "false"), ("waterlogged", "false"),
         ("west", "false")]),
      (13, "minecraft:green_stained_glass_pane",
        [("east", "false"), ("north", "false"), ("south", "false"), ("waterlogged", "false"),
         ("west", "false")]),
      (14, "minecraft:red_stained_glass_pane",
        [("east", "false"), ("north", "false"), ("south", "false"), ("waterlogged", "false"),
         ("west", "false")]),
      (15, "minecraft:black_stained_glass_pane",
        [("east", "false"), ("north", "false"), ("south", "false"), ("waterlogged", "false"),
         ("west", "false")])]⟩,
   ⟨161, "minecraft:leaves2",
     [(0, "minecraft:acacia_leaves", [("distance", "7"), ("persistent", "false")]),
      (1, "minecraft:dark_oak_leaves", [("distance", "7"), ("persistent", "false")]),
      (4, "minecraft:acacia_leaves", [("distance", "7"), ("persistent", "true")]),
      (5, "minecraft:dark_oak_leaves", [("distance", "7"), ("persistent", "true")]),
      (8, "minecraft:acacia_leaves", [("distance", "7"), ("persistent", "false")]),
      (9, "minecraft:dark_oak_leaves", [("distance", "7"), ("persistent", "false")]),
      (12, "minecraft:acacia_leaves", [("distance", "7"), ("persistent", "true")]),
      (13, "minecraft:dark_oak_leaves", [("distance", "7"), ("persistent", "true")])]⟩,
   ⟨162, "minecraft:log2",
     [(0, "minecraft:acacia_log", [("axis", "y")]),
      (1, "minecraft:dark_oak_log", [("axis", "y")]),
      (4, "minecraft:acacia_log", [("axis", "x")]),
      (5, "minecraft:dark_oak_log", [("axis", "x")]),
      (8, "minecraft:acacia_log", [("axis", "z")]),
      (9, "minecraft:dark_oak_log", [("axis", "z")]),
      (12, "minecraft:acacia_wood", [("axis", "y")]),
      (13, "minecraft:dark_oak_wood", [("axis", "y")])]⟩,
   ⟨163, "minecraft:acacia_stairs",
     [(0, "minecraft:acacia_stairs",
        [("facing", "east"), ("half", "bottom"), ("shape", "straight"),
         ("waterlogged", "false")]),
      (1, "minecraft:acacia_stairs",
        [("facing", "west"), ("half", "bottom"), ("shape", "straight"),
         ("waterlogged", "false")]),
      (2, "minecraft:acacia_stairs",
        [("facing", "south"), ("half", "bottom"), ("shape", "straight"),
         ("waterlogged", "false")]),
      (3, "minecraft:acacia_stairs",
        [("facing", "north"), ("half", "bottom"), ("shape", "straight"),
         ("waterlogged", "false")]),
      (4, "minecraft:acacia_stairs",
        [("facing", "east"), ("half", "top"), ("shape", "straight"), ("waterlogged", "false")]),
      (5, "minecraft:acacia_stairs",
        [("facing", "west"), ("half", "top"), ("shape", "straight"), ("waterlogged", "false")]),
      (6, "minecraft:acacia_stairs",
        [("facing", "south"), ("half", "top"), ("shape", "straight"), ("waterlogged", "false")]),
      (7, "minecraft:acacia_stairs",
        [("facing", "north"), ("half", "top"), ("shape", "straight"),
         ("waterlogged", "false")])]⟩,
   ⟨164, "minecraft:dark_oak_stairs",
     [(0, "minecraft:dark_oak_stairs",
        [("facing", "east"), ("half", "bottom"), ("shape", "straight"),
         ("waterlogged", "false")]),
      (1, "minecraft:dark_oak_stairs",
        [("facing", "west"), ("half", "bottom"), ("shape", "straight"),
         ("waterlogged", "false")]),
      (2, "minecraft:dark_oak_stairs",
        [("facing", "south"), ("half", "bottom"), ("shape", "straight"),
         ("waterlogged", "false")]),
      (3, "minecraft:dark_oak_stairs",
        [("facing", "north"), ("half", "bottom"), ("shape", "straight"),
         ("waterlogged", "false")]),
      (4, "minecraft:dark_oak_stairs",
        [("facing", "east"), ("half", "top"), ("shape", "straight"), ("waterlogged", "false")]),
      (5, "minecraft:dark_oak_stairs",
        [("facing", "west"), ("half", "top"), ("shape", "straight"), ("waterlogged", "false")]),
      (6, "minecraft:dark_oak_stairs",
        [("facing", "south"), ("half", "top"), ("shape", "straight"), ("waterlogged", "false")]),
      (7, "minecraft:dark_oak_stairs",
        [("facing", "north"), ("half", "top"), ("shape", "straight"),
         ("waterlogged", "false")])]⟩,
   ⟨165, "minecraft:slime", [(0, "minecraft:slime_block", [])]⟩,
   ⟨166, "minecraft:barrier", [(0, "minecraft:barrier", [])]⟩,
   ⟨167, "minecraft:iron_trapdoor",
     [(0, "minecraft:iron_trapdoor",
        [("facing", "north"), ("half", "bottom"), ("open", "false"), ("powered", "false"),
         ("waterlogged", "false")]),
      (1, "minecraft:iron_trapdoor",
        [("facing", "south"), ("half", "bottom"), ("open", "false"), ("powered", "false"),
         ("waterlogged", "false")]),
      (2, "minecraft:iron_trapdoor",
        [("facing", "west"), ("half", "bottom"), ("open", "false"), ("powered", "false"),
         ("waterlogged", "false")]),
      (3, "minecraft:iron_trapdoor",
        [("facing", "east"), ("half", "bottom"), ("open", "false"), ("powered", "false"),
         ("waterlogged", "false")]),
      (4, "minecraft:iron_trapdoor",
        [("facing", "north"), ("half", "bottom"), ("open", "true"), ("powered", "false"),
         ("waterlogged", "false")]),
      (5, "minecraft:iron_trapdoor",
        [("facing", "south"), ("half", "bottom"), ("open", "true"), ("powered", "false"),
         ("waterlogged", "false")]),
      (6, "minecraft:iron_trapdoor",
        [("facing", "west"), ("half", "bottom"), ("open", "true"), ("powered", "false"),
         ("waterlogged", "false")]),
      (7, "minecraft:iron_trapdoor",
        [("facing", "east"), ("half", "bottom"), ("open", "true"), ("powered", "false"),
         ("waterlogged", "false")]),
      (8, "minecraft:iron_trapdoor",
        [("facing", "north"), ("half", "top"), ("open", "false"), ("powered", "false"),
         ("waterlogged", "false")]),
      (9, "minecraft:iron_trapdoor",
        [("facing", "south"), ("half", "top"), ("open", "false"), ("powered", "false"),
         ("waterlogged", "false")]),
      (10, "minecraft:iron_trapdoor",
        [("facing", "west"), ("half", "top"), ("open", "false"), ("powered", "false"),
         ("waterlogged", "false")]),
      (11, "minecraft:iron_trapdoor",
        [("facing", "east"), ("half", "top"), ("open", "false"), ("powered", "false"),
         ("waterlogged", "false")]),
      (12, "minecraft:iron_trapdoor",
        [("facing", "north"), ("half", "top"), ("open", "true"), ("powered", "false"),
         ("waterlogged", "false")]),
      (13, "minecraft:iron_trapdoor",
        [("facing", "south"), ("half", "top"), ("open", "true"), ("powered", "false"),
         ("waterlogged", "false")]),
      (14, "minecraft:iron_trapdoor",
        [("facing", "west"), ("half", "top"), ("open", "true"), ("powered", "false"),
         ("waterlogged", "false")]),
      (15, "minecraft:iron_trapdoor",
        [("facing", "east"), ("half", "top"), ("open", "true"), ("powered", "false"),
         ("waterlogged", "false")])]⟩,
   ⟨168, "minecraft:prismarine",
     [(0, "minecraft:prismarine", []),
      (1, "minecraft:prismarine_bricks", []),
      (2, "minecraft:dark_prismarine", [])]⟩,
   ⟨169, "minecraft:sea_lantern", [(0, "minecraft:sea_lantern", [])]⟩,
   ⟨170, "minecraft:hay_block",
     [(0, "minecraft:hay_block", [("axis", "y")]),
      (4, "minecraft:hay_block", [("axis", "x")]),
      (8, "minecraft:hay_block", [("axis", "z")])]⟩,
   ⟨171, "minecraft:carpet",
     [(0, "minecraft:white_carpet", []),
      (1, "minecraft:orange_carpet", []),
      (2, "minecraft:magenta_carpet", []),
      (3, "minecraft:light_blue_carpet", []),
      (4, "minecraft:yellow_carpet", []),
      (5, "minecraft:lime_carpet", []),
      (6, "minecraft:pink_carpet", []),
      (7, "minecraft:gray_carpet", []),
      (8, "minecraft:light_gray_carpet", []),
      (9, "minecraft:cyan_carpet", []),
      (10, "minecraft:purple_carpet", []),
      (11, "minecraft:blue_carpet", []),
      (12, "minecraft:brown_carpet", []),
      (13, "minecraft:green_carpet", []),
      (14, "minecraft:red_carpet", []),
      (15, "minecraft:black_carpet", [])]⟩,
   ⟨172, "minecraft:hardened_clay", [(0, "minecraft:terracotta", [])]⟩,
   ⟨173, "minecraft:coal_block", [(0, "minecraft:coal_block", [])]⟩,
   ⟨174, "minecraft:packed_ice", [(0, "minecraft:packed_ice", [])]⟩,
   ⟨175, "minecraft:double_plant",
     [(0, "minecraft:sunflower", [("half", "lower")]),
      (1, "minecraft:lilac", [("half", "lower")]),
      (2, "minecraft:tall_grass", [("half", "lower")]),
      (3, "minecraft:large_fern", [("half", "lower")]),
      (4, "minecraft:rose_bush", [("half", "lower")]),
      (5, "minecraft:peony", [("half", "lower")]),
      (8, "minecraft:sunflower", [("half", "upper")]),
      (9, "minecraft:sunflower", [("half", "upper")]),
      (10, "minecraft:sunflower", [("half", "upper")]),
      (11, "minecraft:sunflower", [("half", "upper")]),
      (12, "minecraft:sunflower", [("half", "upper")]),
      (13, "minecraft:sunflower", [("half", "upper")]),
      (14, "minecraft:sunflower", [("half", "upper")]),
      (15, "minecraft:sunflower", [("half", "upper")])]⟩]

end Flattening.Legacy
