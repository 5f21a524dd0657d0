import Flattening.Legacy.Numbering

/-! # Catalogue rows: block ids 105 to 134 -/

namespace Flattening.Legacy

def rowsE : List Row :=
  [⟨105, "minecraft:melon_stem",
     [(0, "minecraft:melon_stem", [("age", "0")]),
      (1, "minecraft:melon_stem", [("age", "1")]),
      (2, "minecraft:melon_stem", [("age", "2")]),
      (3, "minecraft:melon_stem", [("age", "3")]),
      (4, "minecraft:melon_stem", [("age", "4")]),
      (5, "minecraft:melon_stem", [("age", "5")]),
      (6, "minecraft:melon_stem", [("age", "6")]),
      (7, "minecraft:melon_stem", [("age", "7")])]⟩,
   ⟨106, "minecraft:vine",
     [(0, "minecraft:vine",
        [("east", "false"), ("north", "false"), ("south", "false"), ("up", "false"),
         ("west", "false")]),
      (1, "minecraft:vine",
        [("east", "false"), ("north", "false"), ("south", "true"), ("up", "false"),
         ("west", "false")]),
      (2, "minecraft:vine",
        [("east", "false"), ("north", "false"), ("south", "false"), ("up", "false"),
         ("west", "true")]),
      (3, "minecraft:vine",
        [("east", "false"), ("north", "false"), ("south", "true"), ("up", "false"),
         ("west", "true")]),
      (4, "minecraft:vine",
        [("east", "false"), ("north", "true"), ("south", "false"), ("up", "false"),
         ("west", "false")]),
      (5, "minecraft:vine",
        [("east", "false"), ("north", "true"), ("south", "true"), ("up", "false"),
         ("west", "false")]),
      (6, "minecraft:vine",
        [("east", "false"), ("north", "true"), ("south", "false"), ("up", "false"),
         ("west", "true")]),
      (7, "minecraft:vine",
        [("east", "false"), ("north", "true"), ("south", "true"), ("up", "false"),
         ("west", "true")]),
      (8, "minecraft:vine",
        [("east", "true"), ("north", "false"), ("south", "false"), ("up", "false"),
         ("west", "false")]),
      (9, "minecraft:vine",
        [("east", "true"), ("north", "false"), ("south", "true"), ("up", "false"),
         ("west", "false")]),
      (10, "minecraft:vine",
        [("east", "true"), ("north", "false"), ("south", "false"), ("up", "false"),
         ("west", "true")]),
      (11, "minecraft:vine",
        [("east", "true"), ("north", "false"), ("south", "true"), ("up", "false"),
         ("west", "true")]),
      (12, "minecraft:vine",
        [("east", "true"), ("north", "true"), ("south", "false"), ("up", "false"),
         ("west", "false")]),
      (13, "minecraft:vine",
        [("east", "true"), ("north", "true"), ("south", "true"), ("up", "false"),
         ("west", "false")]),
      (14, "minecraft:vine",
        [("east", "true"), ("north", "true"), ("south", "false"), ("up", "false"),
         ("west", "true")]),
      (15, "minecraft:vine",
        [("east", "true"), ("north", "true"), ("south", "true"), ("up", "false"),
         ("west", "true")])]⟩,
   ⟨107, "minecraft:fence_gate",
     [(0, "minecraft:oak_fence_gate",
        [("facing", "south"), ("in_wall", "false"), ("open", "false"), ("powered", "false")]),
      (1, "minecraft:oak_fence_gate",
        [("facing", "west"), ("in_wall", "false"), ("open", "false"), ("powered", "false")]),
      (2, "minecraft:oak_fence_gate",
        [("facing", "north"), ("in_wall", "false"), ("open", "false"), ("powered", "false")]),
      (3, "minecraft:oak_fence_gate",
        [("facing", "east"), ("in_wall", "false"), ("open", "false"), ("powered", "false")]),
      (4, "minecraft:oak_fence_gate",
        [("facing", "south"), ("in_wall", "false"), ("open", "true"), ("powered", "false")]),
      (5, "minecraft:oak_fence_gate",
        [("facing", "west"), ("in_wall", "false"), ("open", "true"), ("powered", "false")]),
      (6, "minecraft:oak_fence_gate",
        [("facing", "north"), ("in_wall", "false"), ("open", "true"), ("powered", "false")]),
      (7, "minecraft:oak_fence_gate",
        [("facing", "east"), ("in_wall", "false"), ("open", "true"), ("powered", "false")])]⟩,
   ⟨108, "minecraft:brick_stairs",
     [(0, "minecraft:brick_stairs",
        [("facing", "east"), ("half", "bottom"), ("shape", "straight"),
         ("waterlogged", "false")]),
      (1, "minecraft:brick_stairs",
        [("facing", "west"), ("half", "bottom"), ("shape", "straight"),
         ("waterlogged", "false")]),
      (2, "minecraft:brick_stairs",
        [("facing", "south"), ("half", "bottom"), ("shape", "straight"),
         ("waterlogged", "false")]),
      (3, "minecraft:brick_stairs",
        [("facing", "north"), ("half", "bottom"), ("shape", "straight"),
         ("waterlogged", "false")]),
      (4, "minecraft:brick_stairs",
        [("facing", "east"), ("half", "top"), ("shape", "straight"), ("waterlogged", "false")]),
      (5, "minecraft:brick_stairs",
        [("facing", "west"), ("half", "top"), ("shape", "straight"), ("waterlogged", "false")]),
      (6, "minecraft:brick_stairs",
        [("facing", "south"), ("half", "top"), ("shape", "straight"), ("waterlogged", "false")]),
      (7, "minecraft:brick_stairs",
        [("facing", "north"), ("half", "top"), ("shape", "straight"),
         ("waterlogged", "false")])]⟩,
   ⟨109, "minecraft:stone_brick_stairs",
     [(0, "minecraft:stone_brick_stairs",
        [("facing", "east"), ("half", "bottom"), ("shape", "straight"),
         ("waterlogged", "false")]),
      (1, "minecraft:stone_brick_stairs",
        [("facing", "west"), ("half", "bottom"), ("shape", "straight"),
         ("waterlogged", "false")]),
      (2, "minecraft:stone_brick_stairs",
        [("facing", "south"), ("half", "bottom"), ("shape", "straight"),
         ("waterlogged", "false")]),
      (3, "minecraft:stone_brick_stairs",
        [("facing", "north"), ("half", "bottom"), ("shape", "straight"),
         ("waterlogged", "false")]),
      (4, "minecraft:stone_brick_stairs",
        [("facing", "east"), ("half", "top"), ("shape", "straight"), ("waterlogged", "false")]),
      (5, "minecraft:stone_brick_stairs",
        [("facing", "west"), ("half", "top"), ("shape", "straight"), ("waterlogged", "false")]),
      (6, "minecraft:stone_brick_stairs",
        [("facing", "south"), ("half", "top"), ("shape", "straight"), ("waterlogged", "false")]),
      (7, "minecraft:stone_brick_stairs",
        [("facing", "north"), ("half", "top"), ("shape", "straight"),
         ("waterlogged", "false")])]⟩,
   ⟨110, "minecraft:mycelium", [(0, "minecraft:mycelium", [("snowy", "false")])]⟩,
   ⟨111, "minecraft:waterlily", [(0, "minecraft:lily_pad", [])]⟩,
   ⟨112, "minecraft:nether_brick", [(0, "minecraft:nether_bricks", [])]⟩,
   ⟨113, "minecraft:nether_brick_fence",
     [(0, "minecraft:nether_brick_fence",
        [("east", "false"), ("north", "false"), ("south", "false"), ("waterlogged", "false"),
         ("west", "false")])]⟩,
   ⟨114, "minecraft:nether_brick_stairs",
     [(0, "minecraft:nether_brick_stairs",
        [("facing", "east"), ("half", "bottom"), ("shape", "straight"),
         ("waterlogged", "false")]),
      (1, "minecraft:nether_brick_stairs",
        [("facing", "west"), ("half", "bottom"), ("shape", "straight"),
         ("waterlogged", "false")]),
      (2, "minecraft:nether_brick_stairs",
        [("facing", "south"), ("half", "bottom"), ("shape", "straight"),
         ("waterlogged", "false")]),
      (3, "minecraft:nether_brick_stairs",
        [("facing", "north"), ("half", "bottom"), ("shape", "straight"),
         ("waterlogged", "false")]),
      (4, "minecraft:nether_brick_stairs",
        [("facing", "east"), ("half", "top"), ("shape", "straight"), ("waterlogged", "false")]),
      (5, "minecraft:nether_brick_stairs",
        [("facing", "west"), ("half", "top"), ("shape", "straight"), ("waterlogged", "false")]),
      (6, "minecraft:nether_brick_stairs",
        [("facing", "south"), ("half", "top"), ("shape", "straight"), ("waterlogged", "false")]),
      (7, "minecraft:nether_brick_stairs",
        [("facing", "north"), ("half", "top"), ("shape", "straight"),
         ("waterlogged", "false")])]⟩,
   ⟨115, "minecraft:nether_wart",
     [(0, "minecraft:nether_wart", [("age", "0")]),
      (1, "minecraft:nether_wart", [("age", "1")]),
      (2, "minecraft:nether_wart", [("age", "2")]),
      (3, "minecraft:nether_wart", [("age", "3")])]⟩,
   ⟨116, "minecraft:enchanting_table", [(0, "minecraft:enchanting_table", [])]⟩,
   ⟨117, "minecraft:brewing_stand",
     [(0, "minecraft:brewing_stand",
        [("has_bottle_0", "false"), ("has_bottle_1", "false"), ("has_bottle_2", "false")]),
      (1, "minecraft:brewing_stand",
        [("has_bottle_0", "true"), ("has_bottle_1", "false"), ("has_bottle_2", "false")]),
      (2, "minecraft:brewing_stand",
        [("has_bottle_0", "false"), ("has_bottle_1", "true"), ("has_bottle_2", "false")]),
      (3, "minecraft:brewing_stand",
        [("has_bottle_0", "true"), ("has_bottle_1", "true"), ("has_bottle_2", "false")]),
      (4, "minecraft:brewing_stand",
        [("has_bottle_0", "false"), ("has_bottle_1", "false"), ("has_bottle_2", "true")]),
      (5, "minecraft:brewing_stand",
        [("has_bottle_0", "true"), ("has_bottle_1", "false"), ("has_bottle_2", "true")]),
      (6, "minecraft:brewing_stand",
        [("has_bottle_0", "false"), ("has_bottle_1", "true"), ("has_bottle_2", "true")]),
      (7, "minecraft:brewing_stand",
        [("has_bottle_0", "true"), ("has_bottle_1", "true"), ("has_bottle_2", "true")])]⟩,
   ⟨118, "minecraft:cauldron",
     [(0, "minecraft:cauldron", [("level", "0")]),
      (1, "minecraft:cauldron", [("level", "1")]),
      (2, "minecraft:cauldron", [("level", "2")]),
      (3, "minecraft:cauldron", [("level", "3")])]⟩,
   ⟨119, "minecraft:end_portal", [(0, "minecraft:end_portal", [])]⟩,
   ⟨120, "minecraft:end_portal_frame",
     [(0, "minecraft:end_portal_frame", [("eye", "false"), ("facing", "south")]),
      (1, "minecraft:end_portal_frame", [("eye", "false"), ("facing", "west")]),
      (2, "minecraft:end_portal_frame", [("eye", "false"), ("facing", "north")]),
      (3, "minecraft:end_portal_frame", [("eye", "false"), ("facing", "east")]),
      (4, "minecraft:end_portal_frame", [("eye", "true"), ("facing", "south")]),
      (5, "minecraft:end_portal_frame", [("eye", "true"), ("facing", "west")]),
      (6, "minecraft:end_portal_frame", [("eye", "true"), ("facing", "north")]),
      (7, "minecraft:end_portal_frame", [("eye", "true"), ("facing", "east")])]⟩,
   ⟨121, "minecraft:end_stone", [(0, "minecraft:end_stone", [])]⟩,
   ⟨122, "minecraft:dragon_egg", [(0, "minecraft:dragon_egg", [])]⟩,
   ⟨123, "minecraft:redstone_lamp", [(0, "minecraft:redstone_lamp", [("lit", "false")])]⟩,
   ⟨124, "minecraft:lit_redstone_lamp", [(0, "minecraft:redstone_lamp", [("lit", "true")])]⟩,
   ⟨125, "minecraft:double_wooden_slab",
     [(0, "minecraft:oak_slab", [("type", "double"), ("waterlogged", "false")]),
      (1, "minecraft:spruce_slab", [("type", "double"), ("waterlogged", "false")]),
      (2, "minecraft:birch_slab", [("type", "double"), ("waterlogged", "false")]),
      (3, "minecraft:jungle_slab", [("type", "double"), ("waterlogged", "false")]),
      (4, "minecraft:acacia_slab", [("type", "double"), ("waterlogged", "false")]),
      (5, "minecraft:dark_oak_slab", [("type", "double"), ("waterlogged", "false")])]⟩,
   ⟨126, "minecraft:wooden_slab",
     [(0, "minecraft:oak_slab", [("type", "bottom"), ("waterlogged", "false")]),
      (1, "minecraft:spruce_slab", [("type", "bottom"), ("waterlogged", "false")]),
      (2, "minecraft:birch_slab", [("type", "bottom"), ("waterlogged", "false")]),
      (3, "minecraft:jungle_slab", [("type", "bottom"), ("waterlogged", "false")]),
      (4, "minecraft:acacia_slab", [("type", "bottom"), ("waterlogged", "false")]),
      (5, "minecraft:dark_oak_slab", [("type", "bottom"), ("waterlogged", "false")]),
      (8, "minecraft:oak_slab", [("type", "top"), ("waterlogged", "false")]),
      (9, "minecraft:spruce_slab", [("type", "top"), ("waterlogged", "false")]),
      (10, "minecraft:birch_slab", [("type", "top"), ("waterlogged", "false")]),
      (11, "minecraft:jungle_slab", [("type", "top"), ("waterlogged", "false")]),
      (12, "minecraft:acacia_slab", [("type", "top"), ("waterlogged", "false")]),
      (13, "minecraft:dark_oak_slab", [("type", "top"), ("waterlogged", "false")])]⟩,
   ⟨127, "minecraft:cocoa",
     [(0, "minecraft:cocoa", [("age", "0"), ("facing", "south")]),
      (1, "minecraft:cocoa", [("age", "0"), ("facing", "west")]),
      (2, "minecraft:cocoa", [("age", "0"), ("facing", "north")]),
      (3, "minecraft:cocoa", [("age", "0"), ("facing", "east")]),
      (4, "minecraft:cocoa", [("age", "1"), ("facing", "south")]),
      (5, "minecraft:cocoa", [("age", "1"), ("facing", "west")]),
      (6, "minecraft:cocoa", [("age", "1"), ("facing", "north")]),
      (7, "minecraft:cocoa", [("age", "1"), ("facing", "east")]),
      (8, "minecraft:cocoa", [("age", "2"), ("facing", "south")]),
      (9, "minecraft:cocoa", [("age", "2"), ("facing", "west")]),
      (10, "minecraft:cocoa", [("age", "2"), ("facing", "north")]),
      (11, "minecraft:cocoa", [("age", "2"), ("facing", "east")])]⟩,
   ⟨128, "minecraft:sandstone_stairs",
     [(0, "minecraft:sandstone_stairs",
        [("facing", "east"), ("half", "bottom"), ("shape", "straight"),
         ("waterlogged", "false")]),
      (1, "minecraft:sandstone_stairs",
        [("facing", "west"), ("half", "bottom"), ("shape", "straight"),
         ("waterlogged", "false")]),
      (2, "minecraft:sandstone_stairs",
        [("facing", "south"), ("half", "bottom"), ("shape", "straight"),
         ("waterlogged", "false")]),
      (3, "minecraft:sandstone_stairs",
        [("facing", "north"), ("half", "bottom"), ("shape", "straight"),
         ("waterlogged", "false")]),
      (4, "minecraft:sandstone_stairs",
        [("facing", "east"), ("half", "top"), ("shape", "straight"), ("waterlogged", "false")]),
      (5, "minecraft:sandstone_stairs",
        [("facing", "west"), ("half", "top"), ("shape", "straight"), ("waterlogged", "false")]),
      (6, "minecraft:sandstone_stairs",
        [("facing", "south"), ("half", "top"), ("shape", "straight"), ("waterlogged", "false")]),
      (7, "minecraft:sandstone_stairs",
        [("facing", "north"), ("half", "top"), ("shape", "straight"),
         ("waterlogged", "false")])]⟩,
   ⟨129, "minecraft:emerald_ore", [(0, "minecraft:emerald_ore", [])]⟩,
   ⟨130, "minecraft:ender_chest",
     [(0, "minecraft:ender_chest", [("facing", "north"), ("waterlogged", "false")]),
      (1, "minecraft:ender_chest", [("facing", "north"), ("waterlogged", "false")]),
      (2, "minecraft:ender_chest", [("facing", "north"), ("waterlogged", "false")]),
      (3, "minecraft:ender_chest", [("facing", "south"), ("waterlogged", "false")]),
      (4, "minecraft:ender_chest", [("facing", "west"), ("waterlogged", "false")]),
      (5, "minecraft:ender_chest", [("facing", "east"), ("waterlogged", "false")])]⟩,
   ⟨131, "minecraft:tripwire_hook",
     [(0, "minecraft:tripwire_hook",
        [("attached", "false"), ("facing", "south"), ("powered", "false")]),
      (1, "minecraft:tripwire_hook",
        [("attached", "false"), ("facing", "west"), ("powered", "false")]),
      (2, "minecraft:tripwire_hook",
        [("attached", "false"), ("facing", "north"), ("powered", "false")]),
      (3, "minecraft:tripwire_hook",
        [("attached", "false"), ("facing", "east"), ("powered", "false")]),
      (4, "minecraft:tripwire_hook",
        [("attached", "true"), ("facing", "south"), ("powered", "false")]),
      (5, "minecraft:tripwire_hook",
        [("attached", "true"), ("facing", "west"), ("powered", "false")]),
      (6, "minecraft:tripwire_hook",
        [("attached", "true"), ("facing", "north"), ("powered", "false")]),
      (7, "minecraft:tripwire_hook",
        [("attached", "true"), ("facing", "east"), ("powered", "false")]),
      (8, "minecraft:tripwire_hook",
        [("attached", "false"), ("facing", "south"), ("powered", "true")]),
      (9, "minecraft:tripwire_hook",
        [("attached", "false"), ("facing", "west"), ("powered", "true")]),
      (10, "minecraft:tripwire_hook",
        [("attached", "false"), ("facing", "north"), ("powered", "true")]),
      (11, "minecraft:tripwire_hook",
        [("attached", "false"), ("facing", "east"), ("powered", "true")]),
      (12, "minecraft:tripwire_hook",
        [("attached", "true"), ("facing", "south"), ("powered", "true")]),
      (13, "minecraft:tripwire_hook",
        [("attached", "true"), ("facing", "west"), ("powered", "true")]),
      (14, "minecraft:tripwire_hook",
        [("attached", "true"), ("facing", "north"), ("powered", "true")]),
      (15, "minecraft:tripwire_hook",
        [("attached", "true"), ("facing", "east"), ("powered", "true")])]⟩,
   ⟨132, "minecraft:tripwire",
     [(0, "minecraft:tripwire",
        [("attached", "false"), ("disarmed", "false"), ("east", "false"), ("north", "false"),
         ("powered", "false"), ("south", "false"), ("west", "false")]),
      (1, "minecraft:tripwire",
        [("attached", "false"), ("disarmed", "false"), ("east", "false"), ("north", "false"),
         ("powered", "true"), ("south", "false"), ("west", "false")]),
      (2, "minecraft:tripwire",
        [("attached", "false"), ("disarmed", "false"), ("east", "false"), ("north", "false"),
         ("powered", "false"), ("south", "false"), ("west", "false")]),
      (3, "minecraft:tripwire",
        [("attached", "false"), ("disarmed", "false"), ("east", "false"), ("north", "false"),
         ("powered", "true"), ("south", "false"), ("west", "false")]),
      (4, "minecraft:tripwire",
        [("attached", "true"), ("disarmed", "false"), ("east", "false"), ("north", "false"),
         ("powered", "false"), ("south", "false"), ("west", "false")]),
      (5, "minecraft:tripwire",
        [("attached", "true"), ("disarmed", "false"), ("east", "false"), ("north", "false"),
         ("powered", "true"), ("south", "false"), ("west", "false")]),
      (6, "minecraft:tripwire",
        [("attached", "true"), ("disarmed", "false"), ("east", "false"), ("north", "false"),
         ("powered", "false"), ("south", "false"), ("west", "false")]),
      (7, "minecraft:tripwire",
        [("attached", "true"), ("disarmed", "false"), ("east", "false"), ("north", "false"),
         ("powered", "true"), ("south", "false"), ("west", "false")]),
      (8, "minecraft:tripwire",
        [("attached", "false"), ("disarmed", "true"), ("east", "false"), ("north", "false"),
         ("powered", "false"), ("south", "false"), ("west", "false")]),
      (9, "minecraft:tripwire",
        [("attached", "false"), ("disarmed", "true"), ("east", "false"), ("north", "false"),
         ("powered", "true"), ("south", "false"), ("west", "false")]),
      (10, "minecraft:tripwire",
        [("attached", "false"), ("disarmed", "true"), ("east", "false"), ("north", "false"),
         ("powered", "false"), ("south", "false"), ("west", "false")]),
      (11, "minecraft:tripwire",
        [("attached", "false"), ("disarmed", "true"), ("east", "false"), ("north", "false"),
         ("powered", "true"), ("south", "false"), ("west", "false")]),
      (12, "minecraft:tripwire",
        [("attached", "true"), ("disarmed", "true"), ("east", "false"), ("north", "false"),
         ("powered", "false"), ("south", "false"), ("west", "false")]),
      (13, "minecraft:tripwire",
        [("attached", "true"), ("disarmed", "true"), ("east", "false"), ("north", "false"),
         ("powered", "true"), ("south", "false"), ("west", "false")]),
      (14, "minecraft:tripwire",
        [("attached", "true"), ("disarmed", "true"), ("east", "false"), ("north", "false"),
         ("powered", "false"), ("south", "false"), ("west", "false")]),
      (15, "minecraft:tripwire",
        [("attached", "true"), ("disarmed", "true"), ("east", "false"), ("north", "false"),
         ("powered", "true"), ("south", "false"), ("west", "false")])]⟩,
   ⟨133, "minecraft:emerald_block", [(0, "minecraft:emerald_block", [])]⟩,
   ⟨134, "minecraft:spruce_stairs",
     [(0, "minecraft:spruce_stairs",
        [("facing", "east"), ("half", "bottom"), ("shape", "straight"),
         ("waterlogged", "false")]),
      (1, "minecraft:spruce_stairs",
        [("facing", "west"), ("half", "bottom"), ("shape", "straight"),
         ("waterlogged", "false")]),
      (2, "minecraft:spruce_stairs",
        [("facing", "south"), ("half", "bottom"), ("shape", "straight"),
         ("waterlogged", "false")]),
      (3, "minecraft:spruce_stairs",
        [("facing", "north"), ("half", "bottom"), ("shape", "straight"),
         ("waterlogged", "false")]),
      (4, "minecraft:spruce_stairs",
        [("facing", "east"), ("half", "top"), ("shape", "straight"), ("waterlogged", "false")]),
      (5, "minecraft:spruce_stairs",
        [("facing", "west"), ("half", "top"), ("shape", "straight"), ("waterlogged", "false")]),
      (6, "minecraft:spruce_stairs",
        [("facing", "south"), ("half", "top"), ("shape", "straight"), ("waterlogged", "false")]),
      (7, "minecraft:spruce_stairs",
        [("facing", "north"), ("half", "top"), ("shape", "straight"),
         ("waterlogged", "false")])]⟩]

end Flattening.Legacy
