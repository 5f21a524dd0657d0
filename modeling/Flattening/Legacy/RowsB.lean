import Flattening.Legacy.Numbering

/-! # Catalogue rows: block ids 27 to 53 -/

namespace Flattening.Legacy

def rowsB : List Row :=
  [⟨27, "minecraft:golden_rail",
     [(0, "minecraft:powered_rail", [("powered", "false"), ("shape", "north_south")]),
      (1, "minecraft:powered_rail", [("powered", "false"), ("shape", "east_west")]),
      (2, "minecraft:powered_rail", [("powered", "false"), ("shape", "ascending_east")]),
      (3, "minecraft:powered_rail", [("powered", "false"), ("shape", "ascending_west")]),
      (4, "minecraft:powered_rail", [("powered", "false"), ("shape", "ascending_north")]),
      (5, "minecraft:powered_rail", [("powered", "false"), ("shape", "ascending_south")]),
      (8, "minecraft:powered_rail", [("powered", "true"), ("shape", "north_south")]),
      (9, "minecraft:powered_rail", [("powered", "true"), ("shape", "east_west")]),
      (10, "minecraft:powered_rail", [("powered", "true"), ("shape", "ascending_east")]),
      (11, "minecraft:powered_rail", [("powered", "true"), ("shape", "ascending_west")]),
      (12, "minecraft:powered_rail", [("powered", "true"), ("shape", "ascending_north")]),
      (13, "minecraft:powered_rail", [("powered", "true"), ("shape", "ascending_south")])]⟩,
   ⟨28, "minecraft:detector_rail",
     [(0, "minecraft:detector_rail", [("powered", "false"), ("shape", "north_south")]),
      (1, "minecraft:detector_rail", [("powered", "false"), ("shape", "east_west")]),
      (2, "minecraft:detector_rail", [("powered", "false"), ("shape", "ascending_east")]),
      (3, "minecraft:detector_rail", [("powered", "false"), ("shape", "ascending_west")]),
      (4, "minecraft:detector_rail", [("powered", "false"), ("shape", "ascending_north")]),
      (5, "minecraft:detector_rail", [("powered", "false"), ("shape", "ascending_south")]),
      (8, "minecraft:detector_rail", [("powered", "true"), ("shape", "north_south")]),
      (9, "minecraft:detector_rail", [("powered", "true"), ("shape", "east_west")]),
      (10, "minecraft:detector_rail", [("powered", "true"), ("shape", "ascending_east")]),
      (11, "minecraft:detector_rail", [("powered", "true"), ("shape", "ascending_west")]),
      (12, "minecraft:detector_rail", [("powered", "true"), ("shape", "ascending_north")]),
      (13, "minecraft:detector_rail", [("powered", "true"), ("shape", "ascending_south")])]⟩,
   ⟨29, "minecraft:sticky_piston",
     [(0, "minecraft:sticky_piston", [("extended", "false"), ("facing", "down")]),
      (1, "minecraft:sticky_piston", [("extended", "false"), ("facing", "up")]),
      (2, "minecraft:sticky_piston", [("extended", "false"), ("facing", "north")]),
      (3, "minecraft:sticky_piston", [("extended", "false"), ("facing", "south")]),
      (4, "minecraft:sticky_piston", [("extended", "false"), ("facing", "west")]),
      (5, "minecraft:sticky_piston", [("extended", "false"), ("facing", "east")]),
      (8, "minecraft:sticky_piston", [("extended", "true"), ("facing", "down")]),
      (9, "minecraft:sticky_piston", [("extended", "true"), ("facing", "up")]),
      (10, "minecraft:sticky_piston", [("extended", "true"), ("facing", "north")]),
      (11, "minecraft:sticky_piston", [("extended", "true"), ("facing", "south")]),
      (12, "minecraft:sticky_piston", [("extended", "true"), ("facing", "west")]),
      (13, "minecraft:sticky_piston", [("extended", "true"), ("facing", "east")])]⟩,
   ⟨30, "minecraft:web", [(0, "minecraft:cobweb", [])]⟩,
   ⟨31, "minecraft:tallgrass",
     [(0, "minecraft:dead_bush", []),
      (1, "minecraft:grass", []),
      (2, "minecraft:fern", [])]⟩,
   ⟨32, "minecraft:deadbush", [(0, "minecraft:dead_bush", [])]⟩,
   ⟨33, "minecraft:piston",
     [(0, "minecraft:piston", [("extended", "false"), ("facing", "down")]),
      (1, "minecraft:piston", [("extended", "false"), ("facing", "up")]),
      (2, "minecraft:piston", [("extended", "false"), ("facing", "north")]),
      (3, "minecraft:piston", [("extended", "false"), ("facing", "south")]),
      (4, "minecraft:piston", [("extended", "false"), ("facing", "west")]),
      (5, "minecraft:piston", [("extended", "false"), ("facing", "east")]),
      (8, "minecraft:piston", [("extended", "true"), ("facing", "down")]),
      (9, "minecraft:piston", [("extended", "true"), ("facing", "up")]),
      (10, "minecraft:piston", [("extended", "true"), ("facing", "north")]),
      (11, "minecraft:piston", [("extended", "true"), ("facing", "south")]),
      (12, "minecraft:piston", [("extended", "true"), ("facing", "west")]),
      (13, "minecraft:piston", [("extended", "true"), ("facing", "east")])]⟩,
   ⟨34, "minecraft:piston_head",
     [(0, "minecraft:piston_head", [("facing", "down"), ("short", "false"), ("type", "normal")]),
      (1, "minecraft:piston_head", [("facing", "up"), ("short", "false"), ("type", "normal")]),
      (2, "minecraft:piston_head",
        [("facing", "north"), ("short", "false"), ("type", "normal")]),
      (3, "minecraft:piston_head",
        [("facing", "south"), ("short", "false"), ("type", "normal")]),
      (4, "minecraft:piston_head", [("facing", "west"), ("short", "false"), ("type", "normal")]),
      (5, "minecraft:piston_head", [("facing", "east"), ("short", "false"), ("type", "normal")]),
      (8, "minecraft:piston_head", [("facing", "down"), ("short", "false"), ("type", "sticky")]),
      (9, "minecraft:piston_head", [("facing", "up"), ("short", "false"), ("type", "sticky")]),
      (10, "minecraft:piston_head",
        [("facing", "north"), ("short", "false"), ("type", "sticky")]),
      (11, "minecraft:piston_head",
        [("facing", "south"), ("short", "false"), ("type", "sticky")]),
      (12, "minecraft:piston_head",
        [("facing", "west"), ("short", "false"), ("type", "sticky")]),
      (13, "minecraft:piston_head",
        [("facing", "east"), ("short", "false"), ("type", "sticky")])]⟩,
   ⟨35, "minecraft:wool",
     [(0, "minecraft:white_wool", []),
      (1, "minecraft:orange_wool", []),
      (2, "minecraft:magenta_wool", []),
      (3, "minecraft:light_blue_wool", []),
      (4, "minecraft:yellow_wool", []),
      (5, "minecraft:lime_wool", []),
      (6, "minecraft:pink_wool", []),
      (7, "minecraft:gray_wool", []),
      (8, "minecraft:light_gray_wool", []),
      (9, "minecraft:cyan_wool", []),
      (10, "minecraft:purple_wool", []),
      (11, "minecraft:blue_wool", []),
      (12, "minecraft:brown_wool", []),
      (13, "minecraft:green_wool", []),
      (14, "minecraft:red_wool", []),
      (15, "minecraft:black_wool", [])]⟩,
   ⟨36, "minecraft:piston_extension",
     [(0, "minecraft:moving_piston", [("facing", "down"), ("type", "normal")]),
      (1, "minecraft:moving_piston", [("facing", "up"), ("type", "normal")]),
      (2, "minecraft:moving_piston", [("facing", "north"), ("type", "normal")]),
      (3, "minecraft:moving_piston", [("facing", "south"), ("type", "normal")]),
      (4, "minecraft:moving_piston", [("facing", "west"), ("type", "normal")]),
      (5, "minecraft:moving_piston", [("facing", "east"), ("type", "normal")]),
      (8, "minecraft:moving_piston", [("facing", "down"), ("type", "sticky")]),
      (9, "minecraft:moving_piston", [("facing", "up"), ("type", "sticky")]),
      (10, "minecraft:moving_piston", [("facing", "north"), ("type", "sticky")]),
      (11, "minecraft:moving_piston", [("facing", "south"), ("type", "sticky")]),
      (12, "minecraft:moving_piston", [("facing", "west"), ("type", "sticky")]),
      (13, "minecraft:moving_piston", [("facing", "east"), ("type", "sticky")])]⟩,
   ⟨37, "minecraft:yellow_flower", [(0, "minecraft:dandelion", [])]⟩,
   ⟨38, "minecraft:red_flower",
     [(0, "minecraft:poppy", []),
      (1, "minecraft:blue_orchid", []),
      (2, "minecraft:allium", []),
      (3, "minecraft:azure_bluet", []),
      (4, "minecraft:red_tulip", []),
      (5, "minecraft:orange_tulip", []),
      (6, "minecraft:white_tulip", []),
      (7, "minecraft:pink_tulip", []),
      (8, "minecraft:oxeye_daisy", [])]⟩,
   ⟨39, "minecraft:brown_mushroom", [(0, "minecraft:brown_mushroom", [])]⟩,
   ⟨40, "minecraft:red_mushroom", [(0, "minecraft:red_mushroom", [])]⟩,
   ⟨41, "minecraft:gold_block", [(0, "minecraft:gold_block", [])]⟩,
   ⟨42, "minecraft:iron_block", [(0, "minecraft:iron_block", [])]⟩,
   ⟨43, "minecraft:double_stone_slab",
     [(0, "minecraft:stone_slab", [("type", "double"), ("waterlogged", "false")]),
      (1, "minecraft:sandstone_slab", [("type", "double"), ("waterlogged", "false")]),
      (2, "minecraft:petrified_oak_slab", [("type", "double"), ("waterlogged", "false")]),
      (3, "minecraft:cobblestone_slab", [("type", "double"), ("waterlogged", "false")]),
      (4, "minecraft:brick_slab", [("type", "double"), ("waterlogged", "false")]),
      (5, "minecraft:stone_brick_slab", [("type", "double"), ("waterlogged", "false")]),
      (6, "minecraft:nether_brick_slab", [("type", "double"), ("waterlogged", "false")]),
      (7, "minecraft:quartz_slab", [("type", "double"), ("waterlogged", "false")]),
      (8, "minecraft:smooth_stone", []),
      (9, "minecraft:smooth_sandstone", []),
      (15, "minecraft:smooth_quartz", [])]⟩,
   ⟨44, "minecraft:stone_slab",
     [(0, "minecraft:stone_slab", [("type", "bottom"), ("waterlogged", "false")]),
      (1, "minecraft:sandstone_slab", [("type", "bottom"), ("waterlogged", "false")]),
      (2, "minecraft:petrified_oak_slab", [("type", "bottom"), ("waterlogged", "false")]),
      (3, "minecraft:cobblestone_slab", [("type", "bottom"), ("waterlogged", "false")]),
      (4, "minecraft:brick_slab", [("type", "bottom"), ("waterlogged", "false")]),
      (5, "minecraft:stone_brick_slab", [("type", "bottom"), ("waterlogged", "false")]),
      (6, "minecraft:nether_brick_slab", [("type", "bottom"), ("waterlogged", "false")]),
      (7, "minecraft:quartz_slab", [("type", "bottom"), ("waterlogged", "false")]),
      (8, "minecraft:stone_slab", [("type", "top"), ("waterlogged", "false")]),
      (9, "minecraft:sandstone_slab", [("type", "top"), ("waterlogged", "false")]),
      (10, "minecraft:petrified_oak_slab", [("type", "top"), ("waterlogged", "false")]),
      (11, "minecraft:cobblestone_slab", [("type", "top"), ("waterlogged", "false")]),
      (12, "minecraft:brick_slab", [("type", "top"), ("waterlogged", "false")]),
      (13, "minecraft:stone_brick_slab", [("type", "top"), ("waterlogged", "false")]),
      (14, "minecraft:nether_brick_slab", [("type", "top"), ("waterlogged", "false")]),
      (15, "minecraft:quartz_slab", [("type", "top"), ("waterlogged", "false")])]⟩,
   ⟨45, "minecraft:brick_block", [(0, "minecraft:bricks", [])]⟩,
   ⟨46, "minecraft:tnt",
     [(0, "minecraft:tnt", [("unstable", "false")]),
      (1, "minecraft:tnt", [("unstable", "true")])]⟩,
   ⟨47, "minecraft:bookshelf", [(0, "minecraft:bookshelf", [])]⟩,
   ⟨48, "minecraft:mossy_cobblestone", [(0, "minecraft:mossy_cobblestone", [])]⟩,
   ⟨49, "minecraft:obsidian", [(0, "minecraft:obsidian", [])]⟩,
   ⟨50, "minecraft:torch",
     [(0, "minecraft:torch", []),
      (1, "minecraft:wall_torch", [("facing", "east")]),
      (2, "minecraft:wall_torch", [("facing", "west")]),
      (3, "minecraft:wall_torch", [("facing", "south")]),
      (4, "minecraft:wall_torch", [("facing", "north")]),
      (5, "minecraft:torch", [])]⟩,
   ⟨51, "minecraft:fire",
     [(0, "minecraft:fire",
        [("age", "0"), ("east", "false"), ("north", "false"), ("south", "false"),
         ("up", "false"), ("west", "false")]),
      (1, "minecraft:fire",
        [("age", "1"), ("east", "false"), ("north", "false"), ("south", "false"),
         ("up", "false"), ("west", "false")]),
      (2, "minecraft:fire",
        [("age", "2"), ("east", "false"), ("north", "false"), ("south", "false"),
         ("up", "false"), ("west", "false")]),
      (3, "minecraft:fire",
        [("age", "3"), ("east", "false"), ("north", "false"), ("south", "false"),
         ("up", "false"), ("west", "false")]),
      (4, "minecraft:fire",
        [("age", "4"), ("east", "false"), ("north", "false"), ("south", "false"),
         ("up", "false"), ("west", "false")]),
      (5, "minecraft:fire",
        [("age", "5"), ("east", "false"), ("north", "false"), ("south", "false"),
         ("up", "false"), ("west", "false")]),
      (6, "minecraft:fire",
        [("age", "6"), ("east", "false"), ("north", "false"), ("south", "false"),
         ("up", "false"), ("west", "false")]),
      (7, "minecraft:fire",
        [("age", "7"), ("east", "false"), ("north", "false"), ("south", "false"),
         ("up", "false"), ("west", "false")]),
      (8, "minecraft:fire",
        [("age", "8"), ("east", "false"), ("north", "false"), ("south", "false"),
         ("up", "false"), ("west", "false")]),
      (9, "minecraft:fire",
        [("age", "9"), ("east", "false"), ("north", "false"), ("south", "false"),
         ("up", "false"), ("west", "false")]),
      (10, "minecraft:fire",
        [("age", "10"), ("east", "false"), ("north", "false"), ("south", "false"),
         ("up", "false"), ("west", "false")]),
      (11, "minecraft:fire",
        [("age", "11"), ("east", "false"), ("north", "false"), ("south", "false"),
         ("up", "false"), ("west", "false")]),
      (12, "minecraft:fire",
        [("age", "12"), ("east", "false"), ("north", "false"), ("south", "false"),
         ("up", "false"), ("west", "false")]),
      (13, "minecraft:fire",
        [("age", "13"), ("east", "false"), ("north", "false"), ("south", "false"),
         ("up", "false"), ("west", "false")]),
      (14, "minecraft:fire",
        [("age", "14"), ("east", "false"), ("north", "false"), ("south", "false"),
         ("up", "false"), ("west", "false")]),
      (15, "minecraft:fire",
        [("age", "15"), ("east", "false"), ("north", "false"), ("south", "false"),
         ("up", "false"), ("west", "false")])]⟩,
   ⟨52, "minecraft:mob_spawner", [(0, "minecraft:spawner", [])]⟩,
   ⟨53, "minecraft:oak_stairs",
     [(0, "minecraft:oak_stairs",
        [("facing", "east"), ("half", "bottom"), ("shape", "straight"),
         ("waterlogged", "false")]),
      (1, "minecraft:oak_stairs",
        [("facing", "west"), ("half", "bottom"), ("shape", "straight"),
         ("waterlogged", "false")]),
      (2, "minecraft:oak_stairs",
        [("facing", "south"), ("half", "bottom"), ("shape", "straight"),
         ("waterlogged", "false")]),
      (3, "minecraft:oak_stairs",
        [("facing", "north"), ("half", "bottom"), ("shape", "straight"),
         ("waterlogged", "false")]),
      (4, "minecraft:oak_stairs",
        [("facing", "east"), ("half", "top"), ("shape", "straight"), ("waterlogged", "false")]),
      (5, "minecraft:oak_stairs",
        [("facing", "west"), ("half", "top"), ("shape", "straight"), ("waterlogged", "false")]),
      (6, "minecraft:oak_stairs",
        [("facing", "south"), ("half", "top"), ("shape", "straight"), ("waterlogged", "false")]),
      (7, "minecraft:oak_stairs",
        [("facing", "north"), ("half", "top"), ("shape", "straight"),
         ("waterlogged", "false")])]⟩]

end Flattening.Legacy
